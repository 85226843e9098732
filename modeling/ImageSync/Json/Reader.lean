import ImageSync.Json.Number
import ImageSync.Json.Text

/-!
# `ImageSync.Json.Reader`: reading JSON texts

`readValue` reads a value at the start of a text and gives what stands after it, if one can
go on from there. `readDocument` reads a text that holds one value and nothing else but
blanks.
-/

set_option autoImplicit false

namespace ImageSync.Json

/-- Whether a character may stand between the parts of a JSON text. -/
def isSpace (c : Char) : Bool := c == ' ' || c == '\n' || c == '\t' || c == '\r'

/-- The text after the blanks at its start. -/
def skipSpaces (cs : List Char) : List Char := cs.dropWhile isSpace

/-- The text after a word that has to stand at its start. -/
def readWord : (word : List Char) → List Char → Except Fault (List Char)
  | [], cs => .ok cs
  | _ :: _, [] => .error .ended
  | w :: ws, c :: cs => if w = c then readWord ws cs else .error .malformed

/-- A word that stands for a value. -/
def readWordValue (word : String) (v : Value) (cs : List Char) :
    Value × Except Fault (List Char) :=
  match readWord word.toList cs with
  | .ok rest => (v, .ok rest)
  | .error f => (.missing f, .error f)

mutual

/-- Reads a value. The number bounds the steps; each takes at least one character. -/
def readValue : Nat → List Char → Value × Except Fault (List Char)
  | 0, _ => (.missing .ended, .error .ended)
  | n + 1, cs =>
    match skipSpaces cs with
    | [] => (.missing .ended, .error .ended)
    | c :: r =>
      match c with
      | 'n' => readWordValue "ull" .null r
      | 't' => readWordValue "rue" (.bool true) r
      | 'f' => readWordValue "alse" (.bool false) r
      | '"' =>
        let (text, rest) := readText r
        (.text text, rest)
      | '[' =>
        match skipSpaces r with
        | ']' :: rest => (.array [] none, .ok rest)
        | [] => (.array [] (some .ended), .error .ended)
        | r =>
          let (items, rest) := readItems n r
          (.array items (faultOf? rest), rest)
      | '\x7b' =>
        match skipSpaces r with
        | '\x7d' :: rest => (.object [] none, .ok rest)
        | r =>
          let (members, rest) := readMembers n r
          (.object members (faultOf? rest), rest)
      | _ =>
        if c = '-' ∨ c.isDigit then
          let (number, rest) := readNumber (c :: r)
          (.number number, rest)
        else (.missing .malformed, .error .malformed)

/-- Reads the items of an array, of which there is at least one, and its closing bracket. -/
def readItems : Nat → List Char → List Value × Except Fault (List Char)
  | 0, _ => ([], .error .ended)
  | n + 1, cs =>
    let (item, rest) := readValue n cs
    match rest with
    | .error f => ([item], .error f)
    | .ok r =>
      match skipSpaces r with
      | [] => ([item], .error .ended)
      | ']' :: rest => ([item], .ok rest)
      | ',' :: r =>
        let (items, rest) := readItems n r
        (item :: items, rest)
      | _ => ([item], .error .malformed)

/-- Reads the members of an object, of which there is at least one, and its closing brace. -/
def readMembers : Nat → List Char → List (Except Fault String × Value) × Except Fault (List Char)
  | 0, _ => ([], .error .ended)
  | n + 1, cs =>
    match skipSpaces cs with
    | [] => ([], .error .ended)
    | '"' :: r =>
      let (key, rest) := readText r
      match rest with
      | .error f => ([(key, .missing f)], .error f)
      | .ok r =>
        match skipSpaces r with
        | [] => ([(key, .missing .ended)], .error .ended)
        | ':' :: r =>
          let (value, rest) := readValue n r
          match rest with
          | .error f => ([(key, value)], .error f)
          | .ok r =>
            match skipSpaces r with
            | [] => ([(key, value)], .error .ended)
            | '\x7d' :: rest => ([(key, value)], .ok rest)
            | ',' :: r =>
              let (members, rest) := readMembers n r
              ((key, value) :: members, rest)
            | _ => ([(key, value)], .error .malformed)
        | _ => ([(key, .missing .malformed)], .error .malformed)
    | _ => ([], .error .malformed)

end

/-- A text that should hold one value: the value, and what is wrong after it. -/
structure Document where
  value : Value
  trailing : Option Fault

/-- Reads a text that should hold one value. -/
def readDocument (cs : List Char) : Document :=
  let (value, rest) := readValue (2 * cs.length + 2) cs
  match rest with
  | .error f => ⟨value, some f⟩
  | .ok r => ⟨value, if (skipSpaces r).isEmpty then none else some .malformed⟩

end ImageSync.Json
