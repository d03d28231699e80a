import BundleManifest.Platform.Matcher

namespace BundleManifest.Platform

/-- The families of operating systems that a profile can name. -/
inductive Family where
  | linux
  | windows
  | macos
  | freebsd
  | solaris
  | other
  deriving DecidableEq, Repr

def Family.word : Family → Text
  | .linux => "linux".toList
  | .windows => "windows".toList
  | .macos => "macos".toList
  | .freebsd => "freebsd".toList
  | .solaris => "solaris".toList
  | .other => "other".toList

def Family.all : List Family := [.linux,.windows,.macos,.freebsd,.solaris,.other]

structure Profile where
  name : Text
  osName : Text
  osVersion : Text := "0.0.0".toList
  processor : Text
  language : Text := "en".toList
  family : Family := .other
  /-- Further properties that selection filters can ask for. -/
  properties : Dictionary Text := []
  description : Option Text := none
  deriving DecidableEq, Repr

namespace Profile

/-- The four properties that every platform has. -/
def frameworkProperties (p : Profile) : Dictionary Text :=
  [(osNameKey,p.osName),(osVersionKey,p.osVersion),(processorKey,p.processor),
    (languageKey,p.language)]

/-- All properties of the profile; its further ones never stand in for the four. -/
def allProperties (p : Profile) : Dictionary Text := p.properties.update p.frameworkProperties

/-- The properties of the profile with others laid over them. -/
def withOverrides (p : Profile) (overrides : Dictionary Text) : Dictionary Text :=
  p.allProperties.update overrides

/-- The profile as a mapping. -/
def document (p : Profile) : Document :=
  .object [("name".toList,.ofText p.name),("os_name".toList,.ofText p.osName),
    ("os_version".toList,.ofText p.osVersion),("processor".toList,.ofText p.processor),
    ("language".toList,.ofText p.language),("family".toList,.ofText p.family.word),
    ("properties".toList,.object (p.properties.map fun (k,v) => (k,.ofText v))),
    ("description".toList,.ofText? p.description)]

/-- The reference platforms that are always known. -/
def builtin : List Profile := [
  { name := "linux_x86_64".toList,osName := "Linux".toList,osVersion := "6.1.0".toList
    processor := "x86-64".toList,family := .linux
    description := some "Linux on 64-bit x86".toList },
  { name := "linux_aarch64".toList,osName := "Linux".toList,osVersion := "6.1.0".toList
    processor := "AArch64".toList,family := .linux
    description := some "Linux on 64-bit ARM".toList },
  { name := "windows_x86_64".toList,osName := "Windows 10".toList,osVersion := "10.0.0".toList
    processor := "x86-64".toList,family := .windows
    description := some "Windows 10 on 64-bit x86".toList },
  { name := "macos_aarch64".toList,osName := "Mac OS X".toList,osVersion := "14.0.0".toList
    processor := "AArch64".toList,family := .macos
    description := some "macOS on Apple silicon".toList }]

end Profile

end BundleManifest.Platform
