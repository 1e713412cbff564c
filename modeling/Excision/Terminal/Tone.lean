import Excision.Text.Basic

/-!
# Tones

The tones in which the program shows parts of its output on a terminal. A tone begins with
an escape sequence and ends with the sequence that resets all tones; where a text holds that
sequence itself, the tone begins anew after it.
-/

namespace Excision

/-- A way of showing a part of the output. -/
inductive Tone where
  /-- The word before the message of a failure: red and bold. -/
  | failure
  /-- The mark of a run that writes nothing: yellow. -/
  | notice
  /-- The path above the lines that are shown: bold. -/
  | heading
  /-- The numbers of lines: faint. -/
  | gutter
deriving DecidableEq, Repr

namespace Tone

/-- The codes of a tone. -/
def codes : Tone → Text
  | failure => ['1', ';', '3', '1']
  | notice => ['3', '3']
  | heading => ['1']
  | gutter => ['2']

/-- The escape sequence with which a tone begins. -/
def opening (tone : Tone) : Text := '\x1b' :: '[' :: tone.codes ++ ['m']

/-- The escape sequence that resets all tones. -/
def reset : Text := ['\x1b', '[', '0', 'm']

/-- The text with `opening` put after every reset. -/
def reopen (opening : Text) : Text → Text
  | '\x1b' :: '[' :: '0' :: 'm' :: rest => reset ++ opening ++ reopen opening rest
  | c :: rest => c :: reopen opening rest
  | [] => []

/-- A text in a tone, where tones are in use. -/
def paint (coloured : Bool) (tone : Tone) (text : Text) : Text :=
  if coloured then tone.opening ++ reopen tone.opening text ++ reset else text

end Tone

end Excision
