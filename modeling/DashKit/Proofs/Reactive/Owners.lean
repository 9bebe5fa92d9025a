import DashKit.Proofs.Reactive.Run
import Mathlib.Data.List.Forall2
import Mathlib.Data.List.Infix

/-!
# Owners and Their Contexts

Who provided the contexts of a session, told from the commands alone.

A session keeps the owners on the path up to the root and forgets an owner that
was left. Here nothing is forgotten. Every owner has a name of its own, made of
the numbers of the owners from it up to the root, so that the owners above it
are the tails of its name, and a `Lineage` lists by name who provided each
context of one kind. A number is given out once, so an owner that is entered is
never taken for an earlier one and starts with no context.

`Nearest` says of these names which context a path of owners leads to. What a
session records for the owners on the path is the last context that each of
them provided, and looking through such records from the front is the same as
`Nearest`.

## Main definitions

* `Lineage`: The owners that provided the contexts of a kind.
* `Nearest`: The context that a path of owners leads to.
* `Lineage.Fits`: A session records what its lineage says.

## Theorems

* `findSome?_records`: Looking through records finds the nearest context.
* `Kind.entries_step`: What a command does to the owners on the path.
* `Lineage.fits_run`: Every run from the beginning fits its lineage.
-/

namespace DashKit

namespace Command

variable {σ : Type}

/-- The kind of context that a command provides. -/
def provides? : Command σ → Option Kind
  | .provideDesign _ _ => some .design
  | .provideSidebar _ _ => some .sidebar
  | _ => none

end Command

/-- The owners that provided the contexts of one kind. The name of an owner is
    its number before those of the owners above it, and the root has none. -/
structure Lineage where
  entered : Nat := 0
  current : List Nat := []
  providers : List (List Nat) := []

namespace Lineage

variable {σ : Type}

/-- A context of the kind is provided in the current owner. -/
def provided (lineage : Lineage) : Lineage :=
  { lineage with providers := lineage.providers ++ [lineage.current] }

/-- One command. The tail of the name of the root is again the root. -/
def step (kind : Kind) (command : Command σ) (lineage : Lineage) : Lineage :=
  match command with
  | .enter =>
      { lineage with
        entered := lineage.entered + 1
        current := lineage.entered :: lineage.current }
  | .leave => { lineage with current := lineage.current.tail }
  | _ => if command.provides? = some kind then lineage.provided else lineage

/-- The lineage after some commands, one after the other. -/
def run (kind : Kind) : List (Command σ) → Lineage → Lineage
  | [], lineage => lineage
  | command :: commands, lineage => run kind commands (step kind command lineage)

/-- The owners from the current one up to the root. -/
def path (lineage : Lineage) : List (List Nat) :=
  lineage.current.tails

end Lineage

/-- An owner provided the context at a place, and none after it. -/
def ProvidedLast (providers : List (List Nat)) (owner : List Nat) (place : Nat) : Prop :=
  providers[place]? = some owner ∧ ∀ later, place < later → providers[later]? ≠ some owner

/-- The nearest owner on a path that provided anything provided the context at
    a place last. -/
inductive Nearest (providers : List (List Nat)) : List (List Nat) → Nat → Prop
  | own {owner : List Nat} {path : List (List Nat)} {place : Nat} :
      ProvidedLast providers owner place → Nearest providers (owner :: path) place
  | above {owner : List Nat} {path : List (List Nat)} {place : Nat} :
      owner ∉ providers → Nearest providers path place → Nearest providers (owner :: path) place

/-- What an owner records: its last context, or none if it provided none. -/
def Records (providers : List (List Nat)) (owner : List Nat) : Option Nat → Prop
  | none => owner ∉ providers
  | some place => ProvidedLast providers owner place

/-! ## Records -/

section Records

variable {providers path : List (List Nat)} {owner : List Nat} {place : Nat}

theorem ProvidedLast.mem (h : ProvidedLast providers owner place) : owner ∈ providers :=
  List.mem_of_getElem? h.1

theorem ProvidedLast.eq {other : Nat} (h : ProvidedLast providers owner place)
    (h' : ProvidedLast providers owner other) : place = other := by
  -- The later of two last contexts would come behind the earlier one.
  rcases Nat.lt_trichotomy place other with hlt | heq | hgt
  · exact absurd h'.1 (h.2 other hlt)
  · exact heq
  · exact absurd h.1 (h'.2 place hgt)

/-- An owner that provides a context records it, whatever it recorded before. -/
theorem records_append_self (providers : List (List Nat)) (owner : List Nat) :
    Records (providers ++ [owner]) owner (some providers.length) := by
  refine ⟨List.getElem?_concat_length, fun later hlt heq => ?_⟩
  -- No place is behind the one that was just taken.
  have hlen := (List.getElem?_eq_some_iff.mp heq).1
  rw [List.length_append, List.length_singleton] at hlen
  omega

/-- A context provided by another owner changes no record. -/
theorem Records.append {other : List Nat} (hne : other ≠ owner) {entry : Option Nat}
    (h : Records providers owner entry) : Records (providers ++ [other]) owner entry := by
  -- Only the new place holds another owner than before, and that is not this one.
  have hkept (index : Nat) :
      (providers ++ [other])[index]? = some owner ↔ providers[index]? = some owner := by
    rcases Nat.lt_trichotomy index providers.length with hlt | rfl | hgt
    · rw [List.getElem?_append_left hlt]
    · simp [hne]
    · have hlast : (providers ++ [other]).length ≤ index := by
        rw [List.length_append, List.length_singleton]
        omega
      rw [List.getElem?_eq_none hlast, List.getElem?_eq_none (Nat.le_of_lt hgt)]
  cases entry with
  | none =>
      rw [Records, List.mem_append, List.mem_singleton, not_or]
      exact ⟨h, hne.symm⟩
  | some place =>
      exact ⟨(hkept place).mpr h.1, fun later hlt => (hkept later).not.mpr (h.2 later hlt)⟩

/-- Looking through the records of a path finds the context of the nearest
    owner that provided one, and nothing exactly if none did. -/
theorem findSome?_records {entries : List (Option Nat)}
    (h : List.Forall₂ (Records providers) path entries) :
    (∀ place, entries.findSome? id = some place ↔ Nearest providers path place) ∧
      (entries.findSome? id = none ↔ ∀ owner ∈ path, owner ∉ providers) := by
  induction h with
  | nil => exact ⟨fun place => ⟨nofun, nofun⟩, ⟨fun _ _ => nofun, fun _ => rfl⟩⟩
  | @cons owner entry path entries hrecord _ ih =>
      rw [List.forall_mem_cons]
      cases entry with
      -- The owner provided none, and the search goes on above it.
      | none =>
          refine ⟨fun place => (ih.1 place).trans ⟨.above hrecord, ?_⟩,
            ih.2.trans ⟨fun h => ⟨hrecord, h⟩, And.right⟩⟩
          rintro (hlast | ⟨_, hnearest⟩)
          · exact absurd hlast.mem hrecord
          · exact hnearest
      -- The owner provided one, so nothing above it is looked at.
      | some found =>
          refine ⟨?_, ⟨nofun, fun hnone => absurd hrecord.mem hnone.1⟩⟩
          intro place
          rw [List.findSome?_cons_of_isSome (f := id) rfl, id, Option.some_inj]
          constructor
          · rintro rfl
            exact .own hrecord
          · rintro (hlast | ⟨hnone, _⟩)
            · exact hrecord.eq hlast
            · exact absurd hrecord.mem hnone

theorem Nearest.lt (h : Nearest providers path place) : place < providers.length := by
  induction h with
  | own hlast => exact (List.getElem?_eq_some_iff.mp hlast.1).1
  | above _ _ ih => exact ih

end Records

/-! ## A Session by Kinds -/

namespace Kind

variable {σ : Type}

/-- The context of the kind in an owner. -/
def entry : Kind → Owner → Option Nat
  | design => Owner.design
  | sidebar => Owner.sidebar

/-- The name of the provider of the kind in a fault. -/
def provider : Kind → String
  | design => Session.designProvider
  | sidebar => Session.sidebarProvider

/-- The hook of the kind. -/
def find : Kind → Session σ → Except Fault Nat
  | design => Session.requireDesign
  | sidebar => Session.requireSidebar

/-- The number of contexts of the kind. -/
def count : Kind → Session σ → Nat
  | design, session => session.designs.length
  | sidebar, session => session.sidebars.length

/-- The contexts of the kind in the owners from the current one up. -/
def entries (kind : Kind) (session : Session σ) : List (Option Nat) :=
  session.owners.map kind.entry

theorem find_eq (kind : Kind) (session : Session σ) :
    kind.find session =
      match (kind.entries session).findSome? id with
      | none => .error (.missingProvider kind.provider)
      | some place => .ok place := by
  rw [entries, List.findSome?_map, Function.id_comp]
  cases kind <;> rfl

/-- What a command does to the owners on the path, as far as the kind goes. -/
theorem entries_step (kind : Kind) (command : Command σ) (session : Session σ) :
    kind.entries (session.step command).2 =
      match command with
      | .enter => none :: kind.entries session
      | .leave =>
          if (kind.entries session).tail = [] then kind.entries session
          else (kind.entries session).tail
      | command =>
          if command.provides? = some kind then
            some (kind.count session) :: (kind.entries session).tail
          else kind.entries session := by
  cases command with
  | enter => cases kind <;> rfl
  | leave => cases h : session.ancestors <;> simp [Session.step, entries, Session.owners, h]
  -- A context that is changed stays where it is, so the owners are as they were.
  | choose place choice =>
      simp only [Session.step, Session.choose]
      cases session.designs[place]? <;> rfl
  | act place action =>
      simp only [Session.step, Session.act]
      cases session.sidebars[place]? <;> rfl
  | _ => cases kind <;> rfl

theorem count_step (kind : Kind) (command : Command σ) (session : Session σ) :
    kind.count (session.step command).2 =
      if command.provides? = some kind then kind.count session + 1 else kind.count session := by
  cases command with
  | leave =>
      cases h : session.ancestors <;> cases kind <;>
        simp only [count, Session.step, h, Command.provides?, reduceCtorEq, ↓reduceIte]
  | choose place choice =>
      simp only [Session.step, Session.choose]
      cases session.designs[place]? <;> cases kind <;>
        simp only [count, Command.provides?, reduceCtorEq, ↓reduceIte, List.length_set]
  | act place action =>
      simp only [Session.step, Session.act]
      cases session.sidebars[place]? <;> cases kind <;>
        simp only [count, Command.provides?, reduceCtorEq, ↓reduceIte, List.length_set]
  | _ => cases kind <;> simp [Session.step, count, Command.provides?]

end Kind

/-! ## The Lineage of a Session -/

/-- The tails of a list are the list itself and others. -/
theorem tails_eq_cons {α : Type} (l : List α) :
    ∃ rest, l.tails = l :: rest ∧ ∀ other ∈ rest, l ≠ other := by
  cases l with
  | nil => exact ⟨[], rfl, nofun⟩
  | cons a l =>
      refine ⟨l.tails, List.tails_cons a l, ?_⟩
      intro other hother heq
      have hle := ((List.mem_tails other l).mp hother).length_le
      rw [← heq, List.length_cons] at hle
      omega

namespace Lineage

variable {σ : Type} {kind : Kind} {lineage : Lineage} {session : Session σ}

/-- A session records for each owner on the path what the lineage has last for
    it, and all numbers in names were given out. -/
structure Fits (kind : Kind) (lineage : Lineage) (session : Session σ) : Prop where
  count : kind.count session = lineage.providers.length
  records : List.Forall₂ (Records lineage.providers) lineage.path (kind.entries session)
  current_lt : ∀ n ∈ lineage.current, n < lineage.entered
  providers_lt : ∀ owner ∈ lineage.providers, ∀ n ∈ owner, n < lineage.entered

/-- A context that was provided is recorded by the current owner, and nothing
    changes for the owners above it. -/
theorem Fits.provided (h : Fits kind lineage session) {after : Session σ}
    (hcount : kind.count after = kind.count session + 1)
    (hentries : kind.entries after = some (kind.count session) :: (kind.entries session).tail) :
    Fits kind lineage.provided after := by
  refine ⟨?_, ?_, h.current_lt, ?_⟩
  · rw [hcount, h.count, Lineage.provided, List.length_append, List.length_singleton]
  -- The owners above have other names, so the new context is none of theirs.
  · rcases tails_eq_cons lineage.current with ⟨rest, hpath, hne⟩
    have hrecords := h.records
    rw [path, hpath] at hrecords
    rw [hentries, h.count, path, Lineage.provided, hpath]
    rcases List.forall₂_cons_left_iff.mp hrecords with ⟨entry, above, _, habove, hsession⟩
    rw [hsession]
    refine .cons (records_append_self _ _) ?_
    exact ((List.forall₂_and_left _ _).mpr ⟨hne, habove⟩).imp fun _ _ hr => hr.2.append hr.1
  · intro owner howner
    rcases List.mem_append.mp howner with howner | howner
    · exact h.providers_lt owner howner
    · rw [List.mem_singleton.mp howner]
      exact h.current_lt

/-- One command keeps a session and its lineage together. -/
theorem Fits.step (h : Fits kind lineage session) (command : Command σ) :
    Fits kind (lineage.step kind command) (session.step command).2 := by
  have hcount := Kind.count_step kind command session
  have hentries := Kind.entries_step kind command session
  cases command with
  -- The number of a new owner is in no name yet.
  | enter =>
      have hnew : lineage.entered :: lineage.current ∉ lineage.providers := fun hmem =>
        Nat.lt_irrefl _ (h.providers_lt _ hmem _ List.mem_cons_self)
      refine ⟨hcount.trans h.count, ?_, ?_, fun owner howner n hn =>
        Nat.lt_succ_of_lt (h.providers_lt owner howner n hn)⟩
      · rw [hentries, path, Lineage.step, List.tails_cons]
        exact .cons hnew h.records
      · exact List.forall_mem_cons.mpr
          ⟨Nat.lt_succ_self _, fun n hn => Nat.lt_succ_of_lt (h.current_lt n hn)⟩
  -- The root has no ancestors and no numbers in its name.
  | leave =>
      refine ⟨hcount.trans h.count, ?_, fun n hn => h.current_lt n (List.mem_of_mem_tail hn),
        h.providers_lt⟩
      have hrecords := h.records
      rw [path] at hrecords
      simp only at hentries
      rw [hentries, path, Lineage.step]
      cases hcurrent : lineage.current with
      | nil =>
          rw [hcurrent] at hrecords
          rcases List.forall₂_cons_left_iff.mp hrecords with ⟨entry, above, _, habove, hsession⟩
          rw [hsession, List.tail_cons, List.forall₂_nil_left_iff.mp habove, if_pos rfl]
          rwa [hsession, List.forall₂_nil_left_iff.mp habove] at hrecords
      | cons n name =>
          rw [hcurrent, List.tails_cons] at hrecords
          rcases List.forall₂_cons_left_iff.mp hrecords with ⟨entry, above, _, habove, hsession⟩
          have hne : above ≠ [] := by
            rintro rfl
            simpa using habove.length_eq
          rw [hsession, if_neg (show (entry :: above).tail ≠ [] from hne)]
          exact habove
  | _ =>
      simp only [Lineage.step] at hentries hcount ⊢
      split
      · next hp => exact h.provided (hcount.trans (if_pos hp)) (hentries.trans (if_pos hp))
      · next hp =>
          exact ⟨(hcount.trans (if_neg hp)).trans h.count,
            (hentries.trans (if_neg hp)).symm ▸ h.records, h.current_lt, h.providers_lt⟩

theorem Fits.run (h : Fits kind lineage session) (commands : List (Command σ)) :
    Fits kind (lineage.run kind commands) (session.run commands) := by
  induction commands generalizing lineage session with
  | nil => exact h
  | cons command commands ih => exact ih (h.step command)

/-- In the beginning nothing is provided. -/
theorem fits_run (kind : Kind) (commands : List (Command σ)) (world : σ) :
    Fits kind (Lineage.run kind commands {}) (Session.run commands { world }) := by
  refine Fits.run ⟨?_, ?_, List.forall_mem_nil _, List.forall_mem_nil _⟩ commands
  · cases kind <;> rfl
  · cases kind <;> exact .cons List.not_mem_nil .nil

/-- Where a session fits a lineage, the hook finds the nearest context of the
    path, and fails exactly if there is none. -/
theorem Fits.find (h : Fits kind lineage session) :
    (∀ place, kind.find session = .ok place ↔ Nearest lineage.providers lineage.path place) ∧
      ∀ fault, kind.find session = .error fault ↔
        fault = .missingProvider kind.provider ∧
          ∀ owner ∈ lineage.path, owner ∉ lineage.providers := by
  rcases findSome?_records h.records with ⟨hnearest, hmissing⟩
  simp only [Kind.find_eq, ← hnearest, ← hmissing]
  cases (kind.entries session).findSome? id with
  | none =>
      refine ⟨fun place => ⟨nofun, nofun⟩, ?_⟩
      intro fault
      simp only [eq_comm, Except.error.injEq, and_true]
  | some found =>
      refine ⟨?_, fun fault => ⟨nofun, nofun⟩⟩
      intro place
      simp only [Except.ok.injEq, Option.some.injEq]

/-- A context that the hook finds is there. -/
theorem Fits.lt_count (h : Fits kind lineage session) {place : Nat}
    (hfind : kind.find session = .ok place) : place < kind.count session := by
  rw [h.count]
  exact ((h.find.1 place).mp hfind).lt

end Lineage

end DashKit
