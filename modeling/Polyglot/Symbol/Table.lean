import Polyglot.Dict
import Polyglot.Symbol

/-!
# Polyglot.Symbol.Table

Numbers for symbols.  The table gives every text that is entered the number of texts entered
before it, the same number at every later time, and finds the text of a number again.  Numbers
have thirty-two bits, and the greatest of them is kept for the invalid symbol.
-/

namespace Polyglot

/-- The texts that were entered, and the number each of them got. -/
structure SymbolTable where
  texts : Array String
  numbers : Dict String UInt32

namespace SymbolTable

/-- The table in which nothing was entered. -/
def empty : SymbolTable := ⟨#[], Dict.empty⟩

/-- The number that stands for no text. -/
def invalidNumber : UInt32 := 4294967295

/-- Enter a text: a known text keeps its number, a new one gets the next number. -/
def enter (t : SymbolTable) (text : String) : UInt32 × SymbolTable :=
  match t.numbers.get? text with
  | some n => (n, t)
  | none =>
    let n := UInt32.ofNat t.texts.size
    (n, ⟨t.texts.push text, t.numbers.insert text n⟩)

/-- The text of a number, empty for a number that was not given out. -/
def text (t : SymbolTable) (n : UInt32) : String :=
  if n = invalidNumber then "" else (t.texts[n.toNat]?).getD ""

/-- Enter the name of a symbol; the invalid symbol is not entered. -/
def enterSymbol (t : SymbolTable) : Symbol → UInt32 × SymbolTable
  | .invalid => (invalidNumber, t)
  | .named text => t.enter text

/-- The symbol of a number. -/
def symbol (t : SymbolTable) (n : UInt32) : Symbol :=
  if n = invalidNumber then .invalid else .named (t.text n)

/-- Enter texts one after the other. -/
def enterAll (t : SymbolTable) : List String → List UInt32 × SymbolTable
  | [] => ([], t)
  | s :: rest =>
    let (n, t) := t.enter s
    let (ns, t) := enterAll t rest
    (n :: ns, t)

/-- Enter the names of symbols one after the other. -/
def enterSymbols (t : SymbolTable) : List Symbol → List UInt32 × SymbolTable
  | [] => ([], t)
  | s :: rest =>
    let (n, t) := t.enterSymbol s
    let (ns, t) := enterSymbols t rest
    (n :: ns, t)

end SymbolTable

end Polyglot
