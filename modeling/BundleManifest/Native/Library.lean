import BundleManifest.Native.Clause

namespace BundleManifest.Native

/-- One library file of a clause; `ρ` is whatever identifies a revision. -/
structure Library (ρ : Type) where
  revision : ρ
  entry : Text
  osNames : List Text := []
  processors : List Text := []
  osVersions : List Text := []
  languages : List Text := []
  selectionFilter : Option Text := none

/-- The file name, without the directories before it. -/
def fileName (entry : Text) : Text := Text.afterLast '/' entry

/-- The file names that a short name stands for on a family of systems. -/
def platformNames (family name : Text) : List Text :=
  if family="windows".toList then [name++".dll".toList]
  else if family="macos".toList then
    ["lib".toList++name++".dylib".toList,"lib".toList++name++".jnilib".toList]
  else ["lib".toList++name++".so".toList]

/-- Whether the entry is the file for a name, given short or in full. -/
def answersTo (entry name family : Text) : Bool :=
  fileName entry==name || (platformNames family name).contains (fileName entry)

/-- The libraries of a clause, one for each file. -/
def Library.ofClause {ρ : Type} (revision : ρ) (c : NativeClause) : List (Library ρ) :=
  (c.libraryFiles.getD []).map fun entry =>
    { revision,entry,osNames := c.osNames,processors := c.processors,osVersions := c.osVersions
      languages := c.languages,selectionFilter := c.selectionFilter }

end BundleManifest.Native
