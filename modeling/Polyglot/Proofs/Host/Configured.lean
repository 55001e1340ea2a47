import Polyglot.Embedding
import Polyglot.Proofs.Host.Commuting
import Polyglot.Proofs.Host.Session

/-!
# Polyglot.Proofs.Host.Configured

Registries with configured languages.  Each language is registered without override, so that the
order in which a configuration lists its languages does not matter: whether it is accepted depends
on the identifiers that belong together, and so do the answers about identifiers
(`registration_order`).

An accepted configuration is the beginning of a session with an empty registry, in which each of
its languages is registered (`of_registerAll_eq_ok`).
-/

namespace Polyglot

open Polyglot.Language

/-- What a configured language asks of the registry: an implementation that is looked for at its
location. -/
def LanguageSetup.registration (l : LanguageSetup) : Registration where
  locator := .deferred l.location l.typeName
  override := false
  ids := l.identifiers

theorem LanguageSetup.override_registration {ls : List LanguageSetup} :
    ∀ c ∈ ls.map LanguageSetup.registration, c.override = false := by
  intro c hc
  obtain ⟨l, -, rfl⟩ := List.mem_map.1 hc
  rfl

namespace Host

variable {h h' : Host} {r : RegistryId} {reg : Registry}

theorem registerAll_cons (h : Host) (l : LanguageSetup) (ls : List LanguageSetup) :
    Embedding.registerAll r (l :: ls) h = l.registration.outcome (h.registry r) >>= fun new =>
      Embedding.registerAll r ls (h.setRegistry r new) := by
  have hregister : h.register r (.deferred l.location l.typeName) false l.identifiers =
      (l.registration.outcome (h.registry r)).map (h.setRegistry r) := rfl
  rw [Embedding.registerAll, hregister]
  cases l.registration.outcome (h.registry r) <;> rfl

/-! ## Configurations as sessions -/

/-- Registrations as steps of a session. -/
def registering (r : RegistryId) (cs : List Registration) : List (Step r) :=
  cs.map fun c => .ask (.register c)

theorem serve_append (h : Host) (steps later : List (Step r)) :
    h.serve (steps ++ later) = (h.serve steps).serve later := by
  induction steps generalizing h with
  | nil => rfl
  | cons s steps ih => exact ih (s.effect h)

theorem log_append (h : Host) (steps later : List (Step r)) :
    h.log (steps ++ later) = h.log steps ++ (h.serve steps).log later := by
  induction steps generalizing h with
  | nil => rfl
  | cons s steps ih =>
      rw [List.cons_append, log, log, serve, ih (s.effect h), List.append_assoc]

/-- Languages that were all registered came in a session, in which nothing else was done.
Induction on the languages. -/
theorem of_registerAll_eq_ok {ls : List LanguageSetup}
    (hok : Embedding.registerAll r ls h = .ok h') :
    h.serve (registering r (ls.map LanguageSetup.registration)) = h' ∧
      (h.log (registering r (ls.map LanguageSetup.registration))).done =
        ls.map LanguageSetup.registration := by
  induction ls generalizing h with
  | nil => exact ⟨Except.ok.inj hok, rfl⟩
  | cons l ls ih =>
      cases hl : l.registration.outcome (h.registry r) with
      | error e =>
          rw [registerAll_cons, hl] at hok
          cases hok
      | ok new =>
          rw [registerAll_cons, hl] at hok
          have hnext : Request.effect r (.register l.registration) h = h.setRegistry r new := by
            rw [Request.effect, register, ← Registration.outcome, hl]
            rfl
          have hentry : (Entry.registered l.registration (h.registry r)).done? =
              some l.registration := by simp only [Entry.done?, hl]
          obtain ⟨hserve, hdone⟩ := ih hok
          constructor
          · rw [List.map_cons, registering, List.map_cons, serve, Step.effect, hnext]
            exact hserve
          · rw [List.map_cons, registering, List.map_cons, log, Step.effect, hnext]
            exact (List.filterMap_cons_some hentry).trans (congrArg _ hdone)

theorem get?_create (h : Host) (resolver : Option ResolverId) (listener : Listener)
    (options : Options) :
    (Embedding.create h resolver listener options).2.registries.get?
      (Embedding.create h resolver listener options).1.registry.index = some (.empty resolver) :=
  Heap.get?_add_size _ _

theorem ofConfig_eq (h : Host) (c : Config) (resolver : ResolverId) (listener : Listener) :
    Embedding.ofConfig h c resolver listener =
      (Embedding.registerAll (Embedding.create h (some resolver) listener c.options).1.registry
        c.languages (Embedding.create h (some resolver) listener c.options).2).map fun h' =>
          ((Embedding.create h (some resolver) listener c.options).1, h') := rfl

/-- What is told after an accepted configuration begins with its languages. -/
theorem told_ofConfig {c : Config} {resolver : ResolverId} {listener : Listener}
    {made : Embedding × Host} (hmade : Embedding.ofConfig h c resolver listener = .ok made)
    (steps : List (Step made.1.registry)) :
    ∃ j : Journal, j.done = c.languages.map LanguageSetup.registration ∧
      Told made.1.registry (j ++ made.2.log steps) (made.2.serve steps) := by
  rw [ofConfig_eq] at hmade
  cases hall : Embedding.registerAll
      (Embedding.create h (some resolver) listener c.options).1.registry c.languages
      (Embedding.create h (some resolver) listener c.options).2 with
  | error e =>
      rw [hall] at hmade
      cases hmade
  | ok h' =>
      rw [hall] at hmade
      obtain rfl := Except.ok.inj hmade
      obtain ⟨hserve, hdone⟩ := of_registerAll_eq_ok hall
      refine ⟨_, hdone, ?_⟩
      have ht := told_serve (get?_create h (some resolver) listener c.options)
        (registering _ (c.languages.map LanguageSetup.registration) ++ steps)
      rwa [log_append, serve_append, hserve] at ht

/-! ## Configurations that are accepted -/

/-- The registry of a configuration is what comes of its registrations.  Induction on the
languages. -/
theorem registry_registerAll (hreg : h.registries.get? r.index = some reg)
    (ls : List LanguageSetup) :
    (Embedding.registerAll r ls h).map (fun made => made.registry r) =
      Registration.outcomes (ls.map LanguageSetup.registration) reg := by
  induction ls generalizing h reg with
  | nil =>
      simp only [Embedding.registerAll, Except.map, registry_of_get? hreg]
      rfl
  | cons l ls ih =>
      rw [registerAll_cons, List.map_cons, Registration.outcomes, registry_of_get? hreg]
      cases l.registration.outcome reg with
      | error e => rfl
      | ok new => exact ih (get?_setRegistry hreg new)

theorem registry_ofConfig (h : Host) (c : Config) (resolver : ResolverId) (listener : Listener) :
    (Embedding.ofConfig h c resolver listener).map (fun made => made.2.registry made.1.registry) =
      Registration.outcomes (c.languages.map LanguageSetup.registration)
        (.empty (some resolver)) := by
  rw [← registry_registerAll (get?_create h (some resolver) listener c.options)]
  rw [ofConfig_eq]
  cases Embedding.registerAll _ c.languages _ <;> rfl

/-- Nothing stands against a language in an empty registry but what it says itself. -/
theorem compatible_empty_iff {resolver : Option ResolverId} {ls : List LanguageSetup} :
    Registration.Compatible (.empty resolver) (ls.map LanguageSetup.registration) ↔
      (∀ l ∈ ls, ∀ id ∈ l.identifiers, Usable id) ∧
        ∀ l ∈ ls, ∀ l' ∈ ls, ∀ id ∈ l.identifiers, ∀ id' ∈ l'.identifiers,
          spelling id = spelling id' → l.typeName = l'.typeName := by
  constructor
  · intro hcs
    refine ⟨fun l hl id hid => ?_, fun l hl l' hl' => ?_⟩
    · exact (hcs.admissible _ (List.mem_map_of_mem hl) id hid).1
    · exact hcs.agree _ (List.mem_map_of_mem hl) _ (List.mem_map_of_mem hl')
  · rintro ⟨husable, hagree⟩
    constructor
    · intro c hc id hid
      obtain ⟨l, hl, rfl⟩ := List.mem_map.1 hc
      refine ⟨husable l hl id hid, fun t ht => ?_⟩
      have hnone : (Registry.empty resolver).identifiers.get? (spelling id) = none := rfl
      rw [TakenBy, hnone] at ht
      cases ht.1
    · intro c hc c' hc'
      obtain ⟨l, hl, rfl⟩ := List.mem_map.1 hc
      obtain ⟨l', hl', rfl⟩ := List.mem_map.1 hc'
      exact hagree l hl l' hl'

theorem exists_ofConfig_iff (h : Host) (c : Config) (resolver : ResolverId) (listener : Listener) :
    (∃ made, Embedding.ofConfig h c resolver listener = .ok made) ↔
      Registration.Compatible (.empty (some resolver))
        (c.languages.map LanguageSetup.registration) := by
  rw [← Registration.exists_outcomes_iff LanguageSetup.override_registration,
    ← registry_ofConfig h c resolver listener]
  cases Embedding.ofConfig h c resolver listener <;> simp [Except.map]

/-- **Order.**  Two registrations without override are both accepted in one order exactly when
they are in the other, and then all queries of identifiers are answered alike.  So a configuration
may list its languages in any order.  It is accepted exactly when every identifier says something
and identifiers of one spelling are those of one type. -/
theorem registration_order :
    (∀ (reg : Registry) (c c' : Registration), c.override = false → c'.override = false →
      ((∃ left, (c.outcome reg >>= c'.outcome) = .ok left) ↔
        ∃ left, (c'.outcome reg >>= c.outcome) = .ok left) ∧
      ∀ left left', (c.outcome reg >>= c'.outcome) = .ok left →
        (c'.outcome reg >>= c.outcome) = .ok left' → left.AnswersAlike left') ∧
    ∀ (h : Host) (c c' : Config) (resolver : ResolverId) (listener : Listener),
      c.languages.Perm c'.languages →
      ((∃ made, Embedding.ofConfig h c resolver listener = .ok made) ↔
        ∃ made, Embedding.ofConfig h c' resolver listener = .ok made) ∧
      ((∃ made, Embedding.ofConfig h c resolver listener = .ok made) ↔
        (∀ l ∈ c.languages, ∀ id ∈ l.identifiers, Usable id) ∧
          ∀ l ∈ c.languages, ∀ l' ∈ c.languages, ∀ id ∈ l.identifiers, ∀ id' ∈ l'.identifiers,
            spelling id = spelling id' → l.typeName = l'.typeName) ∧
      ∀ made made', Embedding.ofConfig h c resolver listener = .ok made →
        Embedding.ofConfig h c' resolver listener = .ok made' →
        (made.2.registry made.1.registry).AnswersAlike (made'.2.registry made'.1.registry) := by
  constructor
  · intro reg c c' hc hc'
    have hpair : ∀ d d' : Registration,
        Registration.outcomes [d, d'] reg = d.outcome reg >>= d'.outcome := fun d d' => by
      simp only [Registration.outcomes]
      exact congrArg _ (funext fun mid => bind_pure (d'.outcome mid))
    have hplain : ∀ d ∈ [c, c'], d.override = false := by simp [hc, hc']
    have hswap : [c, c'].Perm [c', c] := .swap c' c []
    rw [← hpair, ← hpair]
    exact ⟨Registration.exists_outcomes_iff_of_perm hplain hswap, fun left left' hleft hleft' =>
      Registration.answersAlike_of_perm hplain hswap hleft hleft'⟩
  · intro h c c' resolver listener hperm
    have hmap := hperm.map LanguageSetup.registration
    refine ⟨?_, ?_, fun made made' hmade hmade' => ?_⟩
    · rw [exists_ofConfig_iff, exists_ofConfig_iff]
      exact ⟨fun hcs => hcs.of_perm hmap, fun hcs => hcs.of_perm hmap.symm⟩
    · rw [exists_ofConfig_iff, compatible_empty_iff]
    · have hleft := registry_ofConfig h c resolver listener
      have hleft' := registry_ofConfig h c' resolver listener
      rw [hmade] at hleft
      rw [hmade'] at hleft'
      exact Registration.answersAlike_of_perm LanguageSetup.override_registration hmap hleft.symm
        hleft'.symm

/-- Two languages, one of which is known under two spellings of one extension. -/
def twoLanguages : List LanguageSetup :=
  [⟨"First", "here", ["One"], [".x", "X "]⟩, ⟨"Second", "there", ["two"], ["y"]⟩]

theorem registration_order_twoLanguages :
    let made (ls : List LanguageSetup) := Embedding.ofConfig .empty { languages := ls } ⟨0⟩ .silent
    let first := (⟨.deferred "here" "First", false, ["One"]⟩ : Registration)
    let second := (⟨.deferred "there" "Second", false, ["two"]⟩ : Registration)
    (∃ one other, made twoLanguages = .ok one ∧ made twoLanguages.reverse = .ok other ∧
      (one.2.registry one.1.registry).AnswersAlike (other.2.registry other.1.registry)) ∧
    ∃ one other, (first.outcome (.empty none) >>= second.outcome) = .ok one ∧
      (second.outcome (.empty none) >>= first.outcome) = .ok other ∧ one.AnswersAlike other := by
  intro made first second
  obtain ⟨hpair, hconfig⟩ := registration_order
  constructor
  · obtain ⟨horder, haccepted, halike⟩ := hconfig .empty { languages := twoLanguages }
      { languages := twoLanguages.reverse } ⟨0⟩ .silent (List.reverse_perm twoLanguages).symm
    obtain ⟨one, hone⟩ := haccepted.2 (by decide +kernel)
    obtain ⟨other, hother⟩ := horder.1 ⟨one, hone⟩
    exact ⟨one, other, hone, hother, halike one other hone hother⟩
  · obtain ⟨horder, halike⟩ := hpair (.empty none) first second rfl rfl
    have hok : (first.outcome (.empty none) >>= second.outcome).isOk = true := by decide +kernel
    cases hone : first.outcome (.empty none) >>= second.outcome with
    | error e =>
        rw [hone] at hok
        cases hok
    | ok one =>
        obtain ⟨other, hother⟩ := horder.1 ⟨one, hone⟩
        exact ⟨one, other, rfl, hother, halike one other hone hother⟩

end Host

end Polyglot
