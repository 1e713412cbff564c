/-!
# Text

A `Text` is a list of characters. The searches and cuts that lines, paths and settings
need are here: whether a text holds, starts with or ends with another, cutting a head or
a tail off, splitting at a character and joining again, and the decimal form of a number.
-/

namespace Excision

/-- A text, as its list of characters. -/
abbrev Text := List Char

namespace Text

/-- Whether `needle` stands somewhere in `text`. The empty text stands in every text. -/
def holds (needle : Text) : Text → Bool
  | [] => needle.isEmpty
  | c :: text => needle.isPrefixOf (c :: text) || holds needle text

/-- Whether `text` begins with `head`. -/
def startsWith (head text : Text) : Bool := head.isPrefixOf text

/-- Whether `text` ends with `tail`. -/
def endsWith (tail text : Text) : Bool := tail.isSuffixOf text

/-- `text` less `head` at its front, if it begins with `head`. -/
def dropHead? : (head text : Text) → Option Text
  | [], text => some text
  | _ :: _, [] => none
  | c :: head, d :: text => if c = d then dropHead? head text else none

/-- `text` less `tail` at its end, if it ends with `tail`. -/
def dropTail? (tail text : Text) : Option Text :=
  (dropHead? tail.reverse text.reverse).map List.reverse

/-- The parts of `text` between the occurrences of `sep`. There is always one part more
than there are separators. -/
def splitAt (sep : Char) : Text → List Text
  | [] => [[]]
  | c :: rest =>
    if c = sep then [] :: splitAt sep rest
    else
      match splitAt sep rest with
      | [] => [[c]]
      | part :: parts => (c :: part) :: parts

/-- The parts with `sep` between each two of them. -/
def joinWith (sep : Char) : List Text → Text
  | [] => []
  | [part] => part
  | part :: parts => part ++ sep :: joinWith sep parts

/-- The decimal form of a number. -/
def ofNat (n : Nat) : Text := Nat.toDigits 10 n

/-- The number of bytes of the UTF-8 form. -/
def byteLength : Text → Nat
  | [] => 0
  | c :: text => c.utf8Size + byteLength text

/-- The UTF-8 form. -/
def toBytes (text : Text) : ByteArray := (String.ofList text).toUTF8

/-- The text whose UTF-8 form is `bytes`, if there is one. -/
def ofBytes? (bytes : ByteArray) : Option Text := (String.fromUTF8? bytes).map String.toList

/-- The text with the letters `A` to `Z` in lower case. -/
def lowerAscii (text : Text) : Text := text.map Char.toLower

/-- Whether the first text comes before the second or is equal to it, by code points. -/
def precedes : Text → Text → Bool
  | [], _ => true
  | _ :: _, [] => false
  | c :: s, d :: t => c < d || c == d && precedes s t

@[simp] theorem holds_iff {needle text : Text} :
  holds needle text = true ↔ needle <:+: text
  := by
  induction text with
  | nil => simp [holds]
  | cons c text ih => simp [holds, ih, List.infix_cons_iff]

@[simp] theorem startsWith_iff {head text : Text} :
  startsWith head text = true ↔ head <+: text
  := List.isPrefixOf_iff_prefix

@[simp] theorem endsWith_iff {tail text : Text} :
  endsWith tail text = true ↔ tail <:+ text
  := List.isSuffixOf_iff_suffix

@[simp] theorem dropHead?_append (head rest : Text) :
  dropHead? head (head ++ rest) = some rest
  := by
  induction head with
  | nil => rfl
  | cons c head ih => simp [dropHead?, ih]

theorem eq_append_of_dropHead? {head text rest : Text} (h : dropHead? head text = some rest) :
  text = head ++ rest
  := by
  induction head generalizing text with
  | nil => simpa [dropHead?] using h
  | cons c head ih =>
    cases text with
    | nil => simp [dropHead?] at h
    | cons d text =>
      by_cases hcd : c = d
      · subst hcd
        simp only [dropHead?, if_true] at h
        rw [ih h, List.cons_append]
      · simp [dropHead?, hcd] at h

/-- Cutting a head off undoes putting it on, and nothing else does. -/
theorem dropHead?_eq_some_iff {head text rest : Text} :
  dropHead? head text = some rest ↔ text = head ++ rest
  := ⟨eq_append_of_dropHead?, fun h => h ▸ dropHead?_append head rest⟩

/-- Cutting a tail off undoes putting it on, and nothing else does. -/
theorem dropTail?_eq_some_iff {tail text rest : Text} :
  dropTail? tail text = some rest ↔ text = rest ++ tail
  := by
  simp only [dropTail?, Option.map_eq_some_iff, dropHead?_eq_some_iff]
  constructor
  · rintro ⟨r, h, rfl⟩
    have := congrArg List.reverse h
    simpa using this
  · rintro rfl
    exact ⟨rest.reverse, by simp, by simp⟩

@[simp] theorem ofBytes?_toBytes (text : Text) :
  ofBytes? text.toBytes = some text
  := by
  have h : (String.ofList text).toByteArray.IsValidUTF8 := (String.ofList text).isValidUTF8
  have hs : String.fromUTF8? text.toBytes = some (String.ofList text) := dif_pos h
  rw [ofBytes?, hs, Option.map_some, String.toList_ofList]

theorem toBytes_of_ofBytes? {bytes : ByteArray} {text : Text} (h : ofBytes? bytes = some text) :
  text.toBytes = bytes
  := by
  unfold ofBytes? String.fromUTF8? at h
  split at h
  · simp only [Option.map_some, Option.some.injEq] at h
    subst h
    simp [toBytes, String.toUTF8, String.fromUTF8]
  · simp at h

end Text

end Excision
