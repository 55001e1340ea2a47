import Polyglot.Json.Number

/-!
# Polyglot.Json.Record

Readers for JSON values of a wanted form: truth values, texts, lists, and records.  A record is
written as an object, in which unknown fields are passed over, or as a list of its fields in
order, of which optional ones may be left out at the end.

Each reader stops at the first fault of the text.  A value of another form than the wanted one
is a fault of content, but only after as much of it was read as its description needs.
-/

namespace Polyglot.Json

/-! ## Values of another form -/

/-- The fault of finding `found` in place of `expected`. -/
def unexpected (found expected : String) : Fault :=
  .content ("invalid type: " ++ found ++ ", expected " ++ expected)

/-- A fixed word whose first letter was read, in place of something else. -/
def wordInstead (rest found expected : String) (cs : List Char) : Fault :=
  match readWord rest.toList cs with
  | .error e => e
  | .ok _ => unexpected found expected

/-- A number whose sign was read, in place of something else. -/
def numberInstead (negative : Bool) (expected : String) (cs : List Char) : Fault :=
  match readUnsigned negative cs with
  | .error e => e
  | .ok (n, _) => unexpected n.describe expected

/-- A text whose opening quote was read, in place of something else. -/
def textInstead (expected : String) (cs : List Char) : Fault :=
  match readQuoted cs with
  | .error e => e
  | .ok (s, _) => unexpected ("string " ++ Text.quote s) expected

/-- The fault of a text that goes on with something else than what is expected. -/
def insteadOf (expected : String) : List Char → Fault
  | [] => .ended
  | c :: cs =>
    if c = 'n' then wordInstead "ull" "null" expected cs
    else if c = 't' then wordInstead "rue" "boolean `true`" expected cs
    else if c = 'f' then wordInstead "alse" "boolean `false`" expected cs
    else if c = '-' then numberInstead true expected cs
    else if c.isDigit then numberInstead false expected (c :: cs)
    else if c = '"' then textInstead expected cs
    else if c = '[' then unexpected "sequence" expected
    else if c = '{' then unexpected "map" expected
    else .malformed

/-! ## Passing over values -/

mutual
/-- Take a value of any form; `fuel` bounds the number of its parts. -/
def skipValue : Nat → Reader Unit
  | 0, _ => .error .malformed
  | fuel + 1, cs =>
    match skipSpace cs with
    | [] => .error .ended
    | c :: cs =>
      if c = 'n' then readWord ['u', 'l', 'l'] cs
      else if c = 't' then readWord ['r', 'u', 'e'] cs
      else if c = 'f' then readWord ['a', 'l', 's', 'e'] cs
      else if c = '-' then skipUnsigned cs
      else if c.isDigit then skipUnsigned (c :: cs)
      else if c = '"' then skipQuoted cs
      else if c = '[' then
        match skipSpace cs with
        | ']' :: cs => .ok ((), cs)
        | [] => .error .ended
        | cs => skipItems fuel cs
      else if c = '{' then
        match skipSpace cs with
        | '}' :: cs => .ok ((), cs)
        | cs => skipFields fuel cs
      else .error .malformed

/-- Take the items of a list and its closing bracket. -/
def skipItems : Nat → Reader Unit
  | 0, _ => .error .malformed
  | fuel + 1, cs =>
    match skipValue fuel cs with
    | .error e => .error e
    | .ok (_, cs) =>
      match skipSpace cs with
      | [] => .error .ended
      | ',' :: cs => skipItems fuel cs
      | ']' :: cs => .ok ((), cs)
      | _ :: _ => .error .malformed

/-- Take the fields of an object and its closing brace. -/
def skipFields : Nat → Reader Unit
  | 0, _ => .error .malformed
  | fuel + 1, cs =>
    match skipSpace cs with
    | [] => .error .ended
    | '"' :: cs =>
      match skipQuoted cs with
      | .error e => .error e
      | .ok (_, cs) =>
        match skipSpace cs with
        | [] => .error .ended
        | ':' :: cs =>
          match skipValue fuel cs with
          | .error e => .error e
          | .ok (_, cs) =>
            match skipSpace cs with
            | [] => .error .ended
            | ',' :: cs => skipFields fuel cs
            | '}' :: cs => .ok ((), cs)
            | _ :: _ => .error .malformed
        | _ :: _ => .error .malformed
    | _ :: _ => .error .malformed
end

/-- Take a value of any form.  Every part of it has at least one character. -/
def skipAny : Reader Unit := fun cs => skipValue (2 * cs.length + 2) cs

/-! ## Wanted values -/

/-- Take a truth value. -/
def readBool : Reader Bool := fun cs =>
  match skipSpace cs with
  | 't' :: cs => (readWord ['r', 'u', 'e'] cs).map fun r => (true, r.2)
  | 'f' :: cs => (readWord ['a', 'l', 's', 'e'] cs).map fun r => (false, r.2)
  | cs => .error (insteadOf "a boolean" cs)

/-- Take a text. -/
def readText : Reader String := fun cs =>
  match skipSpace cs with
  | '"' :: cs => readQuoted cs
  | cs => .error (insteadOf "a string" cs)

/-- Go to the next item of a list, if there is one; `first` says that none was read before. -/
def nextItem (first : Bool) : Reader Bool := fun cs =>
  match skipSpace cs with
  | [] => .error .ended
  | ']' :: cs => .ok (false, ']' :: cs)
  | ',' :: cs =>
    if first then .ok (true, ',' :: cs)
    else
      match skipSpace cs with
      | [] => .error .ended
      | ']' :: _ => .error .malformed
      | cs => .ok (true, cs)
  | cs => if first then .ok (true, cs) else .error .malformed

/-- Take the items of a list, whose bracket was read, up to its closing bracket; `fuel` bounds
their number. -/
def readItems {α : Type} (item : Reader α) : Nat → Bool → Reader (List α)
  | 0, _, _ => .error .malformed
  | fuel + 1, first, cs =>
    match nextItem first cs with
    | .error e => .error e
    | .ok (false, cs) => .ok ([], cs.drop 1)
    | .ok (true, cs) =>
      match item cs with
      | .error e => .error e
      | .ok (a, cs) => (readItems item fuel false cs).map fun r => (a :: r.1, r.2)

/-- Take a list. -/
def readList {α : Type} (item : Reader α) : Reader (List α) := fun cs =>
  match skipSpace cs with
  | '[' :: cs => readItems item (cs.length + 1) true cs
  | cs => .error (insteadOf "a sequence" cs)

/-! ## Records -/

/-- A field of a record: its name, whether it must be there, and how reading it changes the
record read so far. -/
structure Field (σ : Type) where
  name : String
  required : Bool
  read : Reader (σ → σ)

/-- Take the end of a list all of whose fields were read. -/
def endOfList : Reader Unit := fun cs =>
  match skipSpace cs with
  | [] => .error .ended
  | ']' :: cs => .ok ((), cs)
  | _ :: _ => .error .malformed

/-- Take the fields of a record from a list, whose bracket was read. -/
def readPositions {σ : Type} (expected : String) :
    Nat → List (Field σ) → σ → Reader σ
  | _, [], s, cs => (endOfList cs).map fun r => (s, r.2)
  | index, f :: fs, s, cs =>
    match nextItem (index == 0) cs with
    | .error e => .error e
    | .ok (false, cs) =>
      if f.required then
        .error (.content ("invalid length " ++ toString index ++ ", expected " ++ expected))
      else readPositions expected (index + 1) fs s cs
    | .ok (true, cs) =>
      match f.read cs with
      | .error e => .error e
      | .ok (g, cs) => readPositions expected (index + 1) fs (g s) cs

/-- Go to the next name of an object, if there is one, and take its opening quote. -/
def nextName (first : Bool) : Reader Bool := fun cs =>
  match skipSpace cs with
  | [] => .error .ended
  | '}' :: cs => .ok (false, cs)
  | '"' :: cs => if first then .ok (true, cs) else .error .malformed
  | ',' :: cs =>
    if first then .error .malformed
    else
      match skipSpace cs with
      | [] => .error .ended
      | '"' :: cs => .ok (true, cs)
      | _ :: _ => .error .malformed
  | _ :: _ => .error .malformed

/-- Take the colon after a name. -/
def readColon : Reader Unit := fun cs =>
  match skipSpace cs with
  | [] => .error .ended
  | ':' :: cs => .ok ((), cs)
  | _ :: _ => .error .malformed

/-- The record when its object is complete, unless a required field is missing. -/
def complete {σ : Type} (fields : List (Field σ)) (seen : List String) (s : σ) : Except Fault σ :=
  match fields.find? fun f => f.required && f.name ∉ seen with
  | some f => .error (.content ("missing field `" ++ f.name ++ "`"))
  | none => .ok s

/-- Take the fields of a record from an object, whose brace was read; `seen` are the names that
occurred before, and `fuel` bounds the number of fields. -/
def readNames {σ : Type} (fields : List (Field σ)) : Nat → List String → Bool → σ → Reader σ
  | 0, _, _, _, _ => .error .malformed
  | fuel + 1, seen, first, s, cs =>
    match nextName first cs with
    | .error e => .error e
    | .ok (false, cs) => (complete fields seen s).map fun s => (s, cs)
    | .ok (true, cs) =>
      match readQuoted cs with
      | .error e => .error e
      | .ok (name, cs) =>
        match fields.find? fun f => f.name = name with
        | none =>
          match readColon cs with
          | .error e => .error e
          | .ok (_, cs) =>
            match skipAny cs with
            | .error e => .error e
            | .ok (_, cs) => readNames fields fuel seen false s cs
        | some f =>
          if name ∈ seen then .error (.content ("duplicate field `" ++ name ++ "`"))
          else
            match readColon cs with
            | .error e => .error e
            | .ok (_, cs) =>
              match f.read cs with
              | .error e => .error e
              | .ok (g, cs) => readNames fields fuel (name :: seen) false (g s) cs

/-- Take a record, starting from what it is without any field. -/
def readRecord {σ : Type} (name : String) (fields : List (Field σ)) (start : σ) : Reader σ :=
  fun cs =>
    match skipSpace cs with
    | '[' :: cs => readPositions
        (name ++ " with " ++ toString fields.length ++ " elements") 0 fields start cs
    | '{' :: cs => readNames fields (cs.length + 1) [] true start cs
    | cs => .error (insteadOf name cs)

/-- Read a text that holds one value and nothing after it. -/
def readWhole {α : Type} (value : Reader α) (text : String) : Except Fault α :=
  match value text.toList with
  | .error e => .error e
  | .ok (a, cs) => if skipSpace cs = [] then .ok a else .error .malformed

end Polyglot.Json
