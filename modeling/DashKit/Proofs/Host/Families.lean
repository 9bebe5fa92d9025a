import DashKit.Proofs.Host.Sharing
import DashKit.Proofs.Ledger

/-!
# Shared Storages and Flags

What the storages and the flags of a page answer, however many parts of it hold
them.

Requests to storages and requests to flags are deeds on two `Shared` contents
that know nothing of each other, so a run of requests is two runs of deeds, and
what is known about families of handles applies to both. What is left to say is
what the changes of a family come to. A memory that was written to finds under a
key what was written there last, and it has as many entries as keys were written
under, no matter how often. A flag is what it was set to last.

The seed of a memory is saved into it before anyone holds it, and therefore
comes before what its family saves.

## Main definitions

* `Hosts.run`: A run of requests.
* `Hosts.storageDeeds`, `Hosts.flagDeeds`: What a run does to the storages and
  to the flags.
* `Hosts.GivesHandles`: The answers of a run name the handles.
* `Hosts.Remembers`: A storage answers as a table of what was saved.

## Theorems

* `part_run`, `storages_run`, `flags_run`: A run of requests is two runs of deeds.
* `founds_part`, `copied_part`, `read?_part_step`: What a request is to the
  families of handles.
* `remembers_run`, `prefersDark_run`: What a family of handles answers.
* `handles_share`: These facts and their frames for any run of requests.
-/

namespace DashKit

namespace Hosts

/-- What a request does to the storages. -/
def Request.onStorages? : Request → Option (Shared.Deed Device (String × String))
  | .memory seed => some (.add (seeded seed))
  | .disabled => some (.add .disabled)
  | .copyStorage storage => some (.copy storage)
  | .save storage key value => some (.change storage (key, value))
  | _ => none

/-- What a request does to the flags. -/
def Request.onFlags? : Request → Option (Shared.Deed Bool Bool)
  | .flag dark => some (.add dark)
  | .copyFlag source => some (.copy source)
  | .setDark changed dark => some (.change changed dark)
  | _ => none

/-- The requests of a run, one after the other. -/
def run (requests : List Request) (hosts : Hosts) : Hosts :=
  requests.foldl (fun hosts request => (step request hosts).2) hosts

/-- What a run does to the storages. -/
def storageDeeds (requests : List Request) : List (Shared.Deed Device (String × String)) :=
  requests.filterMap Request.onStorages?

/-- What a run does to the flags. -/
def flagDeeds (requests : List Request) : List (Shared.Deed Bool Bool) :=
  requests.filterMap Request.onFlags?

/-- A storage answers as a table of what was saved. Under a key it finds what was
    saved there last, and it counts the keys. -/
def Remembers (hosts : Hosts) (storage : Nat) (saved : List (String × String)) : Prop :=
  (∀ key, (step (.load storage key) hosts).1 = .text (Ledger.last? key saved)) ∧
    (step (.size storage) hosts).1 = .count (some (saved.map Prod.fst).dedup.length) ∧
    (step (.isEmpty storage) hosts).1 =
      .truth (some ((saved.map Prod.fst).dedup.length == 0))

/-- A run answers a request for something new with its handle, and so it does with
    one for a copy of a handle that is there. -/
structure GivesHandles (requests : List Request) : Prop where
  memory : ∀ before seed after, requests = before ++ .memory seed :: after →
    ∃ founder, (step (.memory seed) (run before {})).1 = .handle founder ∧
      Shared.Founds keep (storageDeeds requests) founder (seeded seed)
  copyStorage : ∀ before source after, requests = before ++ .copyStorage source :: after →
    source < (run before {}).storages.handles.length →
    ∃ copy, (step (.copyStorage source) (run before {})).1 = .handle copy ∧
      Shared.Copied keep (storageDeeds requests) source copy
  flag : ∀ before dark after, requests = before ++ .flag dark :: after →
    ∃ founder, (step (.flag dark) (run before {})).1 = .handle founder ∧
      Shared.Founds settle (flagDeeds requests) founder dark
  copyFlag : ∀ before source after, requests = before ++ .copyFlag source :: after →
    source < (run before {}).flags.handles.length →
    ∃ copy, (step (.copyFlag source) (run before {})).1 = .handle copy ∧
      Shared.Copied settle (flagDeeds requests) source copy

/-! ## Two Runs of Deeds -/

section Part

variable {σ ω : Type} {apply : ω → σ → σ} {part : Hosts → Shared σ}
  {deed? : Request → Option (Shared.Deed σ ω)}
  (hstep : ∀ request hosts, part (step request hosts).2 =
    (deed? request).elim (part hosts) fun deed => (part hosts).step apply deed)

include hstep

/-- Where every request is at most one deed, a run of requests is a run of
    deeds. -/
theorem part_run (requests : List Request) (hosts : Hosts) :
    part (run requests hosts) = Shared.run apply (requests.filterMap deed?) (part hosts) := by
  induction requests generalizing hosts with
  | nil => rfl
  | cons request requests ih =>
      -- A request of the other kind is no deed and leaves this part as it was.
      refine (ih _).trans ?_
      rw [hstep, List.filterMap_cons]
      cases deed? request <;> rfl

/-- A request that is a new content founds a family. -/
theorem founds_part (hstart : part {} = {}) {request : Request} {content : σ}
    (h : deed? request = some (.add content)) (before after : List Request) :
    Shared.Founds apply ((before ++ request :: after).filterMap deed?)
      (part (run before {})).handles.length content := by
  refine ⟨before.filterMap deed?, after.filterMap deed?, ?_, ?_⟩
  -- The deeds of the run are cut where the request is.
  · rw [List.filterMap_append, List.filterMap_cons_some h]
  · rw [part_run hstep, hstart]

/-- A request that is a copy of a handle that is there copies it. -/
theorem copied_part (hstart : part {} = {}) {request : Request} {source : Nat}
    (h : deed? request = some (.copy source)) (before after : List Request)
    (hthere : source < (part (run before {})).handles.length) :
    Shared.Copied apply ((before ++ request :: after).filterMap deed?) source
      (part (run before {})).handles.length := by
  refine ⟨before.filterMap deed?, after.filterMap deed?, ?_, ?_, hthere⟩
  · rw [List.filterMap_append, List.filterMap_cons_some h]
  · rw [part_run hstep, hstart]

/-- A request that changes nothing through a related handle leaves what a handle
    reads. -/
theorem read?_part_step (hstart : part {} = {}) {requests : List Request} {handle : Nat}
    (h : handle < (part (run requests {})).handles.length) {request : Request}
    (hother : ∀ changed order, deed? request = some (.change changed order) →
      ¬ Shared.Kin apply (requests.filterMap deed?) changed handle) :
    (part (step request (run requests {})).2).read? handle =
      (part (run requests {})).read? handle := by
  -- Both sides are runs of deeds now, and the request is at most one more.
  rw [part_run hstep, hstart] at h
  rw [hstep, part_run hstep, hstart]
  cases hdeed : deed? request with
  | none => rfl
  | some deed =>
      refine Shared.read?_step_of_not_kin apply h fun changed order hchange => ?_
      exact hother changed order (hchange ▸ hdeed)

end Part

theorem storages_step (request : Request) (hosts : Hosts) :
    (step request hosts).2.storages =
      request.onStorages?.elim hosts.storages fun deed => hosts.storages.step keep deed := by
  cases request <;> rfl

theorem flags_step (request : Request) (hosts : Hosts) :
    (step request hosts).2.flags =
      request.onFlags?.elim hosts.flags fun deed => hosts.flags.step settle deed := by
  cases request <;> rfl

theorem storages_run (requests : List Request) (hosts : Hosts) :
    (run requests hosts).storages =
      Shared.run keep (storageDeeds requests) hosts.storages :=
  part_run storages_step requests hosts

theorem flags_run (requests : List Request) (hosts : Hosts) :
    (run requests hosts).flags = Shared.run settle (flagDeeds requests) hosts.flags :=
  part_run flags_step requests hosts

theorem givesHandles (requests : List Request) : GivesHandles requests where
  memory := by
    -- Every request for something new is a deed, and the answer is its handle.
    rintro before seed after rfl
    exact ⟨_, rfl, founds_part storages_step rfl rfl before after⟩
  copyStorage := by
    rintro before source after rfl hthere
    exact ⟨_, rfl, copied_part storages_step rfl rfl before after hthere⟩
  flag := by
    rintro before dark after rfl
    exact ⟨_, rfl, founds_part flags_step rfl rfl before after⟩
  copyFlag := by
    rintro before source after rfl hthere
    exact ⟨_, rfl, copied_part flags_step rfl rfl before after hthere⟩

/-! ## Answers -/

/-- A memory stays one, whatever is saved into it. -/
theorem carryOut_keep (saved : List (String × String)) (entries : Ledger String String) :
    Shared.carryOut keep saved (.memory entries) = .memory (Ledger.putAll saved entries) := by
  induction saved generalizing entries with
  | nil => rfl
  -- The entry goes into the table, and the rest is saved into that.
  | cons entry saved ih => exact ih _

/-- A flag is what it was set to last. -/
theorem carryOut_settle (orders : List Bool) (dark : Bool) :
    Shared.carryOut settle orders dark = orders.getLast?.getD dark := by
  induction orders generalizing dark with
  | nil => rfl
  | cons order orders ih =>
      rw [List.getLast?_cons, Option.getD_some]
      exact ih order

/-- The handles of a memory remember its seed and what was saved through any of
    them. -/
theorem remembers_run {requests : List Request} {seed : Option (String × String)}
    {founder storage : Nat}
    (hfounds : Shared.Founds keep (storageDeeds requests) founder (seeded seed))
    (hkin : Shared.Kin keep (storageDeeds requests) founder storage) :
    Remembers (run requests {}) storage
      (seed.toList ++ Shared.through keep (storageDeeds requests) storage) := by
  -- What the handle reads is the seed with all that was saved through the family, in order.
  have hread : (run requests {}).storages.read? storage =
      some (.memory (Ledger.putAll
        (seed.toList ++ Shared.through keep (storageDeeds requests) storage) [])) := by
    rw [storages_run, Shared.read?_run keep hfounds hkin, Shared.carryOut, seeded,
      ← List.foldl_append]
    exact congrArg some (carryOut_keep _ [])
  refine ⟨?_, ?_, ?_⟩
  · intro key
    simp only [step, load, hread, Option.bind_some]
    refine congrArg Reply.text ((Ledger.get?_putAll key _ []).trans ?_)
    exact Option.or_none
  · simp only [step, size?, hread, Option.bind_some, Device.size?, Ledger.length_putAll]
  · simp only [step, size?, hread, Option.bind_some, Device.size?, Ledger.length_putAll,
      Option.map_some]

/-- The handles of a flag answer what was set last through any of them. -/
theorem prefersDark_run {requests : List Request} {dark : Bool} {founder flag : Nat}
    (hfounds : Shared.Founds settle (flagDeeds requests) founder dark)
    (hkin : Shared.Kin settle (flagDeeds requests) founder flag) :
    (step (.prefersDark flag) (run requests {})).1 =
      .truth (some ((Shared.through settle (flagDeeds requests) flag).getLast?.getD dark)) := by
  simp only [step]
  rw [flags_run, Shared.read?_run settle hfounds hkin, carryOut_settle]

/-- A new content came with a request for a memory, or for a storage that is
    switched off. -/
theorem founds_storage {requests : List Request} {founder : Nat} {content : Device}
    (h : Shared.Founds keep (storageDeeds requests) founder content) :
    content = .disabled ∨ ∃ seed, content = seeded seed := by
  rcases h with ⟨before, after, hdeeds, _⟩
  have hmem : Shared.Deed.add content ∈ storageDeeds requests := by
    rw [hdeeds]
    exact List.mem_append_right before List.mem_cons_self
  -- Two kinds of requests are new contents among the storages.
  rcases List.mem_filterMap.mp hmem with ⟨request, _, hrequest⟩
  cases request <;> cases hrequest
  · exact Or.inr ⟨_, rfl⟩
  · exact Or.inl rfl

/-- What a storage handle answers is settled by what it reads. -/
theorem storage_answers_congr {hosts after : Hosts} {storage : Nat}
    (h : after.storages.read? storage = hosts.storages.read? storage) :
    (∀ key, (step (.load storage key) after).1 = (step (.load storage key) hosts).1) ∧
      (step (.size storage) after).1 = (step (.size storage) hosts).1 ∧
      (step (.isEmpty storage) after).1 = (step (.isEmpty storage) hosts).1 := by
  refine ⟨fun key => ?_, ?_, ?_⟩ <;> simp only [step, load, size?, h]

/-- After any run of requests:

    * The answers of the run name the handles: that of a new memory or flag, and
      that of a copy.
    * The handles of a memory, which are those that are related by copying to the
      one it came with, find under a key what was saved there last through any of
      them or as the seed, and nothing if there was no such save. They count the
      keys that were saved under, and are empty if there are none.
    * The handles of a flag answer what was set last through any of them, and
      without that what the flag was made with.
    * Every storage handle is one of a memory or of a storage that is switched
      off, and every flag handle is one of a flag.
    * A request changes the answers of a storage handle only if it saves through a
      related one, and the answer of a flag handle only if it sets a related
      one. -/
theorem handles_share (requests : List Request) :
    let hosts := run requests {}
    let onStorages := storageDeeds requests
    let onFlags := flagDeeds requests
    GivesHandles requests ∧
    (∀ seed founder storage, Shared.Founds keep onStorages founder (seeded seed) →
      Shared.Kin keep onStorages founder storage →
      Remembers hosts storage (seed.toList ++ Shared.through keep onStorages storage)) ∧
    (∀ dark founder flag, Shared.Founds settle onFlags founder dark →
      Shared.Kin settle onFlags founder flag →
      (step (.prefersDark flag) hosts).1 =
        .truth (some ((Shared.through settle onFlags flag).getLast?.getD dark))) ∧
    (∀ storage, storage < hosts.storages.handles.length →
      ∃ founder, Shared.Kin keep onStorages founder storage ∧
        (Shared.Founds keep onStorages founder .disabled ∨
          ∃ seed, Shared.Founds keep onStorages founder (seeded seed))) ∧
    (∀ flag, flag < hosts.flags.handles.length →
      ∃ founder dark, Shared.Kin settle onFlags founder flag ∧
        Shared.Founds settle onFlags founder dark) ∧
    ∀ request,
      let after := (step request hosts).2
      (∀ storage, storage < hosts.storages.handles.length →
        (∀ saved key value, request = .save saved key value →
          ¬ Shared.Kin keep onStorages saved storage) →
        (∀ key, (step (.load storage key) after).1 = (step (.load storage key) hosts).1) ∧
        (step (.size storage) after).1 = (step (.size storage) hosts).1 ∧
        (step (.isEmpty storage) after).1 = (step (.isEmpty storage) hosts).1) ∧
      ∀ flag, flag < hosts.flags.handles.length →
        (∀ changed dark, request = .setDark changed dark →
          ¬ Shared.Kin settle onFlags changed flag) →
        (step (.prefersDark flag) after).1 = (step (.prefersDark flag) hosts).1 := by
  intro hosts onStorages onFlags
  refine ⟨givesHandles requests, fun _ _ _ hfounds hkin => remembers_run hfounds hkin,
    fun _ _ _ hfounds hkin => prefersDark_run hfounds hkin, ?_, ?_,
    fun request => ⟨fun storage h hother => storage_answers_congr ?_, ?_⟩⟩
  -- A handle that is there goes back to a founder, and the founder to a request.
  · intro storage h
    rw [storages_run] at h
    rcases Shared.exists_founder keep h with ⟨founder, content, hfounds, hkin⟩
    refine ⟨founder, hkin, ?_⟩
    rcases founds_storage hfounds with rfl | ⟨seed, rfl⟩
    · exact Or.inl hfounds
    · exact Or.inr ⟨seed, hfounds⟩
  · intro flag h
    rw [flags_run] at h
    rcases Shared.exists_founder settle h with ⟨founder, dark, hfounds, hkin⟩
    exact ⟨founder, dark, hkin, hfounds⟩
  -- Of all requests only a save changes what a storage holds.
  · refine read?_part_step storages_step rfl h ?_
    rintro saved ⟨key, value⟩ hsave
    refine hother saved key value ?_
    cases request <;> cases hsave
    rfl
  · intro flag h hother
    refine congrArg Reply.truth (read?_part_step flags_step rfl h ?_)
    intro changed dark hset
    refine hother changed dark ?_
    cases request <;> cases hset
    rfl

/-- A seeded memory is copied, and its copy is copied. What is saved through the
    last copy is found through the first handle, in place of the seed, while a
    second memory goes on with its own text under the same key. A flag is set
    through its copy. -/
theorem handles_share_copied :
    let requests : List Request :=
      [.memory (some ("open", "false")), .copyStorage 0, .copyStorage 1, .memory none,
        .save 2 "open" "true", .save 1 "width" "wide", .save 3 "open" "false", .flag false,
        .copyFlag 0, .setDark 1 true]
    let hosts := run requests {}
    (∃ copy, (step (.copyStorage 1) (run (requests.take 2) {})).1 = .handle copy ∧
        Shared.Copied keep (storageDeeds requests) 1 copy) ∧
      (step (.load 0 "open") hosts).1 = .text (some "true") ∧
      (step (.size 0) hosts).1 = .count (some 2) ∧
      (step (.load 3 "open") hosts).1 = .text (some "false") ∧
      (step (.prefersDark 0) hosts).1 = .truth (some true) ∧
      (step (.load 0 "open") (step (.save 3 "open" "none") hosts).2).1 =
        (step (.load 0 "open") hosts).1 ∧
      (step (.prefersDark 0) (step (.save 3 "open" "none") hosts).2).1 =
        (step (.prefersDark 0) hosts).1 := by
  intro requests hosts
  rcases handles_share requests with ⟨hhandles, hmemory, hflag, _, _, hframe⟩
  -- The first three handles are one family, the fourth is alone.
  have hfirst : Remembers hosts 0 [("open", "false"), ("open", "true"), ("width", "wide")] :=
    hmemory (some ("open", "false")) 0 0 ⟨[], _, rfl, rfl⟩ (by decide)
  have hsecond : Remembers hosts 3 [("open", "false")] :=
    hmemory none 3 3 ⟨storageDeeds (requests.take 3), _, rfl, rfl⟩ (by decide)
  refine ⟨?_, hfirst.1 "open", hfirst.2.1.trans ?_, hsecond.1 "open", ?_, ?_, ?_⟩
  · exact hhandles.copyStorage (requests.take 2) 1 (requests.drop 3) rfl (by decide)
  · decide
  · exact hflag false 0 0 ⟨[], _, rfl, rfl⟩ (by decide)
  · refine ((hframe (.save 3 "open" "none")).1 0 (by decide) ?_).1 "open"
    rintro _ _ _ ⟨⟩
    decide
  · exact (hframe (.save 3 "open" "none")).2 0 (by decide) fun _ _ h => nomatch h

end Hosts

end DashKit
