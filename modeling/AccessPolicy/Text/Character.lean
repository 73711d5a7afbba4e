import AccessPolicy.Text.Ranges

/-!
# Blanks, digits and the case of letters

The characters that readers of all kinds of texts ask about: blanks, which are trimmed off on either
side, the decimal digits of all scripts, as Unicode 16.0 has them, and the letters of ASCII in
either case. Keywords are compared without regard to that case; all other characters stand for
themselves, since `Char.toLower` and `Char.toUpper` change ASCII letters only.
-/

namespace AccessPolicy.Text

/-! ## Blanks -/

/-- The code points with the property `White_Space`. -/
def blankRanges : Ranges := [
  (0x9, 0xD), (0x20, 0x20), (0x85, 0x85), (0xA0, 0xA0), (0x1680, 0x1680), (0x2000, 0x200A),
  (0x2028, 0x2029), (0x202F, 0x202F), (0x205F, 0x205F), (0x3000, 0x3000)]

/-- Whether a character is white space. -/
def isBlank (c : Char) : Bool :=
  blankRanges.has c.toNat

/-- The text without the blanks it starts with. -/
def trimStart (cs : List Char) : List Char :=
  cs.dropWhile isBlank

/-- The text without the blanks it ends with. -/
def trimEnd (cs : List Char) : List Char :=
  (cs.reverse.dropWhile isBlank).reverse

/-- The text without the blanks on either side. -/
def trim (cs : List Char) : List Char :=
  trimEnd (trimStart cs)

/-- The string without the blanks on either side. -/
def trimmed (s : String) : String :=
  String.ofList (trim s.toList)

/-- The empty text has nothing to trim. -/
@[simp]
theorem trimmed_empty : trimmed "" = "" := rfl

/-! ## Digits -/

/-- The code points of the category `Decimal_Number`. -/
def digitRanges : Ranges :=
  Ranges.ofRows [
    "30-39 660-669 6F0-6F9 7C0-7C9 966-96F 9E6-9EF A66-A6F AE6-AEF B66-B6F BE6-BEF C66-C6F",
    "CE6-CEF D66-D6F DE6-DEF E50-E59 ED0-ED9 F20-F29 1040-1049 1090-1099 17E0-17E9 1810-1819",
    "1946-194F 19D0-19D9 1A80-1A89 1A90-1A99 1B50-1B59 1BB0-1BB9 1C40-1C49 1C50-1C59 A620-A629",
    "A8D0-A8D9 A900-A909 A9D0-A9D9 A9F0-A9F9 AA50-AA59 ABF0-ABF9 FF10-FF19 104A0-104A9",
    "10D30-10D39 10D40-10D49 11066-1106F 110F0-110F9 11136-1113F 111D0-111D9 112F0-112F9",
    "11450-11459 114D0-114D9 11650-11659 116C0-116C9 116D0-116E3 11730-11739 118E0-118E9",
    "11950-11959 11BF0-11BF9 11C50-11C59 11D50-11D59 11DA0-11DA9 11F50-11F59 16130-16139",
    "16A60-16A69 16AC0-16AC9 16B50-16B59 16D70-16D79 1CCF0-1CCF9 1D7CE-1D7FF 1E140-1E149",
    "1E2F0-1E2F9 1E4F0-1E4F9 1E5F1-1E5FA 1E950-1E959 1FBF0-1FBF9"]

/-- Whether a character is a decimal digit of some script. -/
def isDigit (c : Char) : Bool :=
  digitRanges.has c.toNat

/-- The digits of ASCII are decimal digits. -/
theorem isDigit_of_isDigit {c : Char} (h : c.isDigit) : isDigit c := by
  refine Ranges.has_iff.2 ⟨(0x30, 0x39), by decide, ?_⟩
  simpa [Char.isDigit, UInt32.le_iff_toNat_le] using h

/-! ## The case of ASCII letters -/

/-- The text with its ASCII letters in lower case. -/
def asciiLower (s : String) : String :=
  String.ofList (s.toList.map Char.toLower)

/-- The text with its ASCII letters in upper case. -/
def asciiUpper (s : String) : String :=
  String.ofList (s.toList.map Char.toUpper)

/-- Whether two texts are the same up to the case of ASCII letters. -/
def sameIgnoringCase (s t : String) : Bool :=
  asciiLower s == asciiLower t

/-- Texts are the same but for case when their characters are in lower case. -/
theorem sameIgnoringCase_iff {s t : String} :
    sameIgnoringCase s t ↔ s.toList.map Char.toLower = t.toList.map Char.toLower := by
  simp [sameIgnoringCase, asciiLower, String.ofList_inj]

/-- The value of an ASCII decimal digit. -/
def digitValue (c : Char) : Nat :=
  c.toNat - 0x30

end AccessPolicy.Text
