import Polyglot.Host.Compiling
import Polyglot.Proofs.Host.Answers
import Polyglot.Proofs.Language.Extension

/-!
# Polyglot.Proofs.Host.Selection

The provider for a source unit that is not tagged with a language, which goes by the extension of
the unit's identity:

```
identity     extension        the provider for it
main         none             no language can be determined
main.        empty            an argument error
main.Ss      Ss               the provider of .Ss, which is filed as .ss
```

An extension of blanks only is no better than none, but it is taken to the registry, which
complains of it as of an identifier that says nothing.  `language_selection` says so of every host.
-/

namespace Polyglot

open Polyglot.Language

namespace Source

/-- No dot is part of an extension. -/
theorem dot_not_mem_of_extension? {path extension : String}
    (h : extension? path = some extension) : '.' ∉ extension.toList := by
  obtain ⟨cs, hcs, rfl⟩ := Option.map_eq_some_iff.1 h
  obtain ⟨name, -, hname⟩ := Option.bind_eq_some_iff.1 hcs
  simp only [extensionOf?] at hname
  split at hname
  · obtain rfl := Option.some.inj hname
    intro hdot
    rw [String.toList_ofList, List.mem_reverse] at hdot
    simpa using List.mem_takeWhile_imp hdot
  · cases hname

end Source

namespace Host

variable {h : Host} {r : RegistryId} {u : SourceUnit} {extension : String}

/-! ## Units without a language -/

theorem providerFor_of_extensionless (hu : u.language = none) (hnone : u.extension? = none) :
    h.providerFor r u = (.error (.undeterminedLanguage u.id), h) := by
  simp only [providerFor, hu, hnone, Option.map_none]

theorem providerFor_of_extension (hu : u.language = none) (hsome : u.extension? = some extension) :
    h.providerFor r u = ((h.resolveByExtension r extension).1.mapError .registry,
      (h.resolveByExtension r extension).2) := by
  simp only [providerFor, hu, hsome, Option.map_some]
  cases hfound : h.resolveByExtension r extension with
  | mk result h' => cases result <;> rfl

theorem providerFor_of_blank (hu : u.language = none) (hsome : u.extension? = some extension)
    (hblank : Text.trim extension = "") : h.providerFor r u =
      (.error (.registry (.argument (.invalidIdentifier extension))), h) := by
  rw [providerFor_of_extension hu hsome, resolveByExtension,
    ofExtension_of_no_dot (Source.dot_not_mem_of_extension? hsome), if_pos hblank]
  rfl

theorem providerFor_of_usable (hu : u.language = none) (hsome : u.extension? = some extension)
    (hnonblank : Text.trim extension ≠ "") : h.providerFor r u =
      ((h.resolve r ("." ++ Text.trim extension)).1.mapError .registry,
        (h.resolve r ("." ++ Text.trim extension)).2) := by
  rw [providerFor_of_extension hu hsome, resolveByExtension,
    ofExtension_of_no_dot (Source.dot_not_mem_of_extension? hsome), if_neg hnonblank]

theorem mapError_registry_eq_error_iff {α : Type} {x : Except RegistryError α} {e : ModuleError} :
    x.mapError .registry = .error e ↔ ∃ failure, x = .error failure ∧ .registry failure = e := by
  cases x <;> simp [Except.mapError]

theorem providerFor_eq_undetermined_iff (hu : u.language = none) :
    (h.providerFor r u).1 = .error (.undeterminedLanguage u.id) ↔ u.extension? = none := by
  cases hext : u.extension? with
  | none => simp only [providerFor_of_extensionless hu hext]
  | some extension =>
      rw [providerFor_of_extension hu hext, mapError_registry_eq_error_iff]
      simp

theorem providerFor_eq_argument_iff (hu : u.language = none) {e : ArgumentError} :
    (h.providerFor r u).1 = .error (.registry (.argument e)) ↔
      ∃ extension, u.extension? = some extension ∧ Text.trim extension = "" ∧
        e = .invalidIdentifier extension := by
  cases hext : u.extension? with
  | none =>
      rw [providerFor_of_extensionless hu hext]
      simp
  | some extension =>
      by_cases hblank : Text.trim extension = ""
      · rw [providerFor_of_blank hu hext hblank]
        simp only [Except.error.injEq, ModuleError.registry.injEq, RegistryError.argument.injEq]
        constructor
        · exact fun heq => ⟨extension, rfl, hblank, heq.symm⟩
        · rintro ⟨_, heq, -, rfl⟩
          rw [Option.some.inj heq]
      · rw [providerFor_of_usable hu hext hblank, mapError_registry_eq_error_iff]
        constructor
        · rintro ⟨failure, hfailure, heq⟩
          rw [ModuleError.registry.inj heq] at hfailure
          exact absurd hfailure (resolve_ne_argument (usable_dot_trim hblank) e)
        · rintro ⟨_, heq, hno, -⟩
          rw [← Option.some.inj heq] at hno
          exact absurd hno hblank

/-- **Selection.**  The provider for a unit without a language goes by the extension of its
identity.

* No language can be determined exactly when there is no extension.
* There is an argument error exactly when the extension is blank, and it names the extension.
* In every other case the provider is that of the extension with a dot, up to letter case.

In the first two cases nothing changes. -/
theorem language_selection (h : Host) (r : RegistryId) (u : SourceUnit) (hu : u.language = none) :
    ((h.providerFor r u).1 = .error (.undeterminedLanguage u.id) ↔ u.extension? = none) ∧
    (∀ e, (h.providerFor r u).1 = .error (.registry (.argument e)) ↔
      ∃ extension, u.extension? = some extension ∧ Text.trim extension = "" ∧
        e = .invalidIdentifier extension) ∧
    (∀ extension, u.extension? = some extension → Text.trim extension ≠ "" →
      key ("." ++ Text.trim extension) = .ok (Text.lowercase ("." ++ Text.trim extension)) ∧
      h.providerFor r u = ((h.resolve r ("." ++ Text.trim extension)).1.mapError .registry,
        (h.resolve r ("." ++ Text.trim extension)).2)) ∧
    ((∀ extension, u.extension? = some extension → Text.trim extension = "") →
      (h.providerFor r u).2 = h) := by
  refine ⟨providerFor_eq_undetermined_iff hu, fun e => providerFor_eq_argument_iff hu,
    fun extension hext hnonblank => ⟨?_, providerFor_of_usable hu hext hnonblank⟩, fun hblank => ?_⟩
  · rw [key_of_usable (usable_dot_trim hnonblank), spelling, trim_dot_trim]
  · cases hext : u.extension? with
    | none => rw [providerFor_of_extensionless hu hext]
    | some extension => rw [providerFor_of_blank hu hext (hblank extension hext)]

/-- A language that is known by an extension. -/
def knownExtension : List (Step ⟨0⟩) :=
  [.ask (.register ⟨.deferred "there" "First", false, [".ss"]⟩)]

theorem language_selection_knownExtension :
    let h := (Host.empty.addRegistry none).2.serve knownExtension
    (h.providerFor ⟨0⟩ { id := "lib.d/main" }).1 = .error (.undeterminedLanguage "lib.d/main") ∧
      (h.providerFor ⟨0⟩ { id := "main. " }).1 =
        .error (.registry (.argument (.invalidIdentifier " "))) ∧
      key ".SS" = .ok ".ss" ∧
      h.providerFor ⟨0⟩ { id := "lib.d/main.SS " } =
        ((h.resolve ⟨0⟩ ".SS").1.mapError .registry, (h.resolve ⟨0⟩ ".SS").2) := by
  intro h
  have hselect (id : String) := language_selection h ⟨0⟩ { id := id } rfl
  obtain ⟨hnone, -⟩ := hselect "lib.d/main"
  obtain ⟨-, hargument, -⟩ := hselect "main. "
  obtain ⟨-, -, hfound, -⟩ := hselect "lib.d/main.SS "
  refine ⟨hnone.2 (by decide +kernel), (hargument _).2 ⟨" ", ?_⟩, by decide +kernel, ?_⟩
  · decide +kernel
  · have htrim : "." ++ Text.trim "SS " = ".SS" := by decide +kernel
    rw [← htrim]
    exact (hfound "SS " (by decide +kernel) (by decide +kernel)).2

/-- A unit whose name ends in a dot has an extension, which is empty, and the registry is asked for
it. -/
theorem language_selection_finalDot :
    let h := (Host.empty.addRegistry none).2
    SourceUnit.extension? { id := "main." } = some "" ∧
      (h.providerFor ⟨0⟩ { id := "main." }).1 =
        .error (.registry (.argument (.invalidIdentifier ""))) ∧
      (h.providerFor ⟨0⟩ { id := "main." }).1 ≠ .error (.undeterminedLanguage "main.") := by
  decide +kernel

end Host

end Polyglot
