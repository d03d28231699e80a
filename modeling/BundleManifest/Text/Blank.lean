import BundleManifest.Text.Basic

namespace BundleManifest.Text

/-- Unicode white space: the controls that separate lines, files, groups and records, and all space
separators. The zero-width space and the byte order mark are not blank. -/
def isBlank (c : Char) : Bool :=
  let n := c.toNat
  (9 ≤ n && n ≤ 13) || (28 ≤ n && n ≤ 32) || n==0x85 || n==0xa0 || n==0x1680 ||
    (0x2000 ≤ n && n ≤ 0x200a) || n==0x2028 || n==0x2029 || n==0x202f || n==0x205f || n==0x3000

def trimLeft (t : Text) : Text := t.dropWhile isBlank

def trimRight (t : Text) : Text := (t.reverse.dropWhile isBlank).reverse

/-- The text without the blanks at its two ends. -/
def trim (t : Text) : Text := trimRight (trimLeft t)

/-- The text without any blank. -/
def squeeze (t : Text) : Text := t.filter fun c => !isBlank c

/-- The trimmed, non-empty parts between commas. -/
def commaList (t : Text) : List Text :=
  ((t.splitOn ',').map trim).filter (· ≠ [])

theorem trimLeft_length_le (t : Text) : (trimLeft t).length ≤ t.length :=
  (List.dropWhile_sublist _).length_le

theorem length_lt_of_trimLeft_eq_cons {t r : Text} {c : Char} (h : trimLeft t=c::r) :
    r.length < t.length := by
  have := trimLeft_length_le t
  rw [h,List.length_cons] at this
  omega

end BundleManifest.Text
