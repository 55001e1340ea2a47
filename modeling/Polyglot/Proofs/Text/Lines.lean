import Polyglot.Proofs.Text.Trimming
import Polyglot.Text.Lines

/-!
# Polyglot.Proofs.Text.Lines

What the lines of a text say, when blanks around a line and empty lines do not count
(`contents`).  Text that is put after a line feed says what it says alone, whatever stands before
the line feed:

```
contents (s ++ "\n" ++ t) = contents s ++ contents t
```

The lines themselves do not behave like this.  A text may end in a line feed, and then the joined
text has an empty line that neither part has; and it may end in a carriage return, which belongs to
its last line only as long as no line feed follows.
-/

namespace Polyglot.Text

/-- What the lines of a text say whose current line begins with `current`, read backwards. -/
def contentsFrom (current cs : List Char) : List (List Char) :=
  ((linesFrom current cs).map trimChars).filter fun line => !line.isEmpty

/-- What the lines of a text say. -/
def contents (s : String) : List (List Char) := contentsFrom [] s.toList

/-- A blank at the end is trimmed. -/
theorem trimChars_concat {c : Char} (hc : isBlank c = true) (cs : List Char) :
    trimChars (cs ++ [c]) = trimChars cs := by
  have hlast : ∀ ds, dropBlanksRight (ds ++ [c]) = dropBlanksRight ds := fun ds =>
    List.rdropWhile_concat_pos isBlank ds c hc
  rw [trimChars, trimChars, List.dropWhile_append]
  split
  · next hall =>
      have hnil : cs.dropWhile isBlank = [] := List.isEmpty_iff.1 hall
      rw [hnil, List.dropWhile_cons_of_pos hc, List.dropWhile_nil]
  · exact hlast _

/-- The carriage return before a line feed is trimmed anyway. -/
theorem trimChars_dropReturn (current : List Char) :
    trimChars (dropReturn current).reverse = trimChars current.reverse := by
  unfold dropReturn
  split
  · rw [List.reverse_cons, trimChars_concat (by decide)]
  · rfl

/-- A line feed ends what the current line says. -/
theorem contentsFrom_append (current cs ds : List Char) :
    contentsFrom current (cs ++ '\n' :: ds) = contentsFrom current cs ++ contentsFrom [] ds := by
  induction cs generalizing current with
  | nil =>
      rw [List.nil_append, contentsFrom, linesFrom, if_pos rfl, List.map_cons,
        trimChars_dropReturn, contentsFrom, linesFrom]
      cases current with
      | nil => rfl
      | cons c rest => rw [List.filter_cons]; split <;> simp_all [contentsFrom]
  | cons c cs ih =>
      rw [List.cons_append, contentsFrom, contentsFrom, linesFrom, linesFrom]
      split
      · rw [List.map_cons, List.map_cons, List.filter_cons, List.filter_cons]
        have hrest := ih []
        simp only [contentsFrom] at hrest ⊢
        split
        · rw [hrest, List.cons_append]
        · exact hrest
      · exact ih (c :: current)

/-- **Texts that are joined by line feeds** say what each of them says. -/
theorem contents_intercalate (texts : List String) :
    contents ("\n".intercalate texts) = texts.flatMap contents := by
  induction texts with
  | nil => rfl
  | cons s rest ih =>
      cases rest with
      | nil =>
          rw [String.intercalate_singleton, List.flatMap_cons, List.flatMap_nil, List.append_nil]
      | cons t rest =>
          rw [String.intercalate_cons_cons, List.flatMap_cons, ← ih, contents, String.toList_append,
            String.toList_append, List.append_assoc]
          exact contentsFrom_append [] s.toList _

end Polyglot.Text
