import DashKit.Proofs.Sidebar.Run
import Mathlib.Algebra.Ring.Parity

/-!
# Counting Flips

Where the flags of a sidebar are after any number of flips.

A toggle and a key press do not say which flag they flip. It is the one that is
drawn when they come, and a resize in the middle of a run changes which one that
is, so neither flag can be computed from the number of flips alone. It takes two
counts, of the flips at moments on the desktop and of those at moments on a
narrow screen, and each flag is the initial one flipped as often as its own count
says.

A third count is about the flag that chooses. A resize answers whether it changed
that flag, so it flips it exactly if the answer is yes. All three flags are
therefore counted by the same argument: `Moment.sidebar_eq` writes down a step as
three flips that may or may not take place, and `run_counted` adds up such steps
over a run.

This needs that a run only flips and measures. Setting a flag to a value makes it
forget how often it was flipped.

## Main definitions

* `Event.flipsOrMeasures`: The event sets no flag to a value of its own.
* `Moment.flipsDesktop`, `Moment.flipsDrawer`: Which flag a flip is for.
* `Moment.crosses`: A resize that answers yes.

## Theorems

* `Moment.sidebar_eq`: A step is at most one flip of each flag.
* `run_counted`: A flag that is flipped at some moments of a run.
* `flips_counted`: The flags after a run that only flips and measures.
-/

namespace DashKit

/-- The event flips the flag that is drawn, if any, or measures which one is. -/
def Event.flipsOrMeasures : Event → Bool
  | .toggle => true
  | .press _ => true
  | .resize _ => true
  | _ => false

namespace Moment

variable {σ : Type} (storage : Storage σ)

/-- The event flips the desktop flag. -/
def flipsDesktop (moment : Moment σ) : Bool :=
  moment.flips && !moment.before.isMobile

/-- The event flips the drawer's flag. -/
def flipsDrawer (moment : Moment σ) : Bool :=
  moment.flips && moment.before.isMobile

/-- The event is a resize that answers that something changed. -/
def crosses (moment : Moment σ) : Bool :=
  match moment.event with
  | .resize _ => (moment.turn storage).answer == some true
  | _ => false

/-- An event that flips or measures flips each flag once or not at all. -/
theorem sidebar_eq {moment : Moment σ} (h : moment.event.flipsOrMeasures = true) :
    (moment.turn storage).sidebar =
      { options := moment.before.options
        isOpen := moment.flipsDesktop ^^ moment.before.isOpen
        drawerOpen := moment.flipsDrawer ^^ moment.before.drawerOpen
        isMobile := moment.crosses storage ^^ moment.before.isMobile } := by
  cases hf : moment.flips with
  | true =>
      -- A flip is no resize.
      have hquiet : moment.crosses storage = false := by
        rw [flips] at hf
        rw [crosses]
        split <;> simp_all
      rw [sidebar_of_flips storage hf, hquiet, flipsDesktop, flipsDrawer, hf]
      cases hm : moment.before.isMobile <;> simp [hm]
  | false =>
      -- Without a flip only a resize is left to look at, and it moves the third flag.
      rw [flipsDesktop, flipsDrawer, hf]
      simp only [Bool.false_and, Bool.false_xor]
      rcases moment with ⟨event, before, world⟩
      cases event with
      | toggle => exact absurd hf Bool.true_eq_false.mp
      | press chord =>
          have hdeaf : Sidebar.hears before.options chord ≠ true := Bool.eq_false_iff.mp hf
          have hquiet : crosses storage ⟨.press chord, before, world⟩ = false := rfl
          rw [turn, Sidebar.step_press, if_neg hdeaf, hquiet, Bool.false_xor]
      | resize width =>
          have hcross : crosses storage ⟨.resize width, before, world⟩ =
              (isNarrow width before.options.breakpoint != before.isMobile) := by
            simp only [crosses, turn, Sidebar.step_answer, Option.some_beq_some, beq_true]
          rw [hcross]
          simp only [turn, Sidebar.step, Sidebar.resize, Bool.bne_self_right]
      | _ => exact absurd h Bool.false_ne_true

/-- A key press answers whether its chord is the one that the options ask for, and
    if it is not then nothing happens. -/
theorem turn_press {moment : Moment σ} {chord : Chord} (h : moment.event = .press chord) :
    (moment.turn storage).answer = some (Sidebar.hears moment.before.options chord) ∧
      ((moment.turn storage).answer = some false →
        (moment.turn storage).sidebar = moment.before ∧
          (moment.turn storage).world = moment.world) := by
  rw [turn, h, Sidebar.step_press]
  by_cases hheard : Sidebar.hears moment.before.options chord = true
  · rw [if_pos hheard, hheard]
    exact ⟨rfl, fun hno => absurd (Option.some_inj.mp hno) Bool.true_eq_false.mp⟩
  · rw [if_neg hheard, Bool.eq_false_iff.mpr hheard]
    exact ⟨rfl, fun _ => ⟨rfl, rfl⟩⟩

end Moment

namespace Sidebar

variable {σ : Type} (storage : Storage σ)

/-- A flag that is flipped at some moments of a run, and kept at the others, ends
    as it began but for as many flips. -/
theorem run_counted (flag : Sidebar → Bool) (counted : Moment σ → Bool) {events : List Event}
    (hstep : ∀ moment : Moment σ, moment.event ∈ events →
      flag (moment.turn storage).sidebar = (counted moment ^^ flag moment.before))
    (sidebar : Sidebar) (world : σ) :
    flag (run storage events sidebar world).1 =
      not^[(moments storage events sidebar world).countP counted] (flag sidebar) := by
  induction events generalizing sidebar world with
  | nil => rfl
  | cons event events ih =>
      -- The first moment flips once or not at all, and the rest starts from what it left.
      have hfirst := hstep ⟨event, sidebar, world⟩ List.mem_cons_self
      have hrest := ih (fun moment hmem => hstep moment (List.mem_cons_of_mem event hmem))
        (sidebar.step storage event world).sidebar (sidebar.step storage event world).world
      rw [run, hrest, moments, List.countP_cons, Function.iterate_add_apply]
      refine congrArg _ (hfirst.trans ?_)
      cases counted ⟨event, sidebar, world⟩ <;> simp

/-- Flipping changes a flag exactly if it is done an odd number of times. -/
theorem odd_iff_iterate_not_ne (n : Nat) (flag : Bool) : Odd n ↔ not^[n] flag ≠ flag := by
  rcases Nat.even_or_odd n with hn | hn
  · rw [Bool.involutive_not.iterate_even hn]
    exact iff_of_false (Nat.not_odd_iff_even.mpr hn) fun hne => hne rfl
  · rw [Bool.involutive_not.iterate_odd hn]
    exact iff_of_true hn (by cases flag <;> decide)

/-- After a run that only flips and measures, each of the two flags is the initial
    one flipped once for every flip at which it was the one that is drawn. A flip
    changes that flag and nothing else. A key press answers by the options and the
    chord, and one that answers no leaves the sidebar and the world as they were.
    And which flag is drawn has changed exactly if an odd number of resizes answer
    that it did. -/
theorem flips_counted {events : List Event}
    (h : ∀ event ∈ events, event.flipsOrMeasures = true) (sidebar : Sidebar) (world : σ) :
    let moments := moments storage events sidebar world
    let after := (run storage events sidebar world).1
    after.isOpen = not^[moments.countP Moment.flipsDesktop] sidebar.isOpen ∧
      after.drawerOpen = not^[moments.countP Moment.flipsDrawer] sidebar.drawerOpen ∧
      (∀ moment ∈ moments, moment.flips = true →
        (moment.turn storage).sidebar =
          if moment.before.isMobile then
            { moment.before with drawerOpen := !moment.before.drawerOpen }
          else { moment.before with isOpen := !moment.before.isOpen }) ∧
      (∀ moment ∈ moments, ∀ chord, moment.event = .press chord →
        (moment.turn storage).answer = some (hears sidebar.options chord) ∧
          ((moment.turn storage).answer = some false →
            (moment.turn storage).sidebar = moment.before ∧
              (moment.turn storage).world = moment.world)) ∧
      (Odd (moments.countP (Moment.crosses storage)) ↔ after.isMobile ≠ sidebar.isMobile) := by
  intro moments after
  have hstep : ∀ moment : Moment σ, moment.event ∈ events → _ :=
    fun moment hmem => moment.sidebar_eq storage (h moment.event hmem)
  refine ⟨?_, ?_, fun moment _ hf => moment.sidebar_of_flips storage hf, ?_, ?_⟩
  · exact run_counted storage Sidebar.isOpen _
      (fun moment hmem => congrArg Sidebar.isOpen (hstep moment hmem)) sidebar world
  · exact run_counted storage Sidebar.drawerOpen _
      (fun moment hmem => congrArg Sidebar.drawerOpen (hstep moment hmem)) sidebar world
  · intro moment hmem chord hpress
    rw [← options_of_mem_moments storage hmem]
    exact moment.turn_press storage hpress
  · have hmobile := run_counted storage Sidebar.isMobile _
      (fun moment hmem => congrArg Sidebar.isMobile (hstep moment hmem)) sidebar world
    -- The third flag is counted like the others, and its count is then read by its parity.
    rw [odd_iff_iterate_not_ne _ sidebar.isMobile, ← hmobile]

/-- A window becomes narrow after the first flip, and narrower before the last two.
    One chord lacks its modifier. -/
theorem flips_counted_narrowed :
    let events : List Event :=
      [.press { key := "B", control := true }, .resize 500, .toggle, .press { key := "b" },
        .resize 400, .press { key := "b", command := true }, .toggle]
    let moments := moments Storage.memory events (fresh {}) []
    let after := (run Storage.memory events (fresh {}) []).1
    (∀ event ∈ events, event.flipsOrMeasures = true) ∧
      moments.countP Moment.flipsDesktop = 1 ∧ after.isOpen = false ∧
      moments.countP Moment.flipsDrawer = 3 ∧ after.drawerOpen = true ∧
      moments.countP (Moment.crosses Storage.memory) = 1 ∧ after.isMobile ≠ false := by
  intro events moments after
  have h : ∀ event ∈ events, event.flipsOrMeasures = true := by decide
  rcases flips_counted Storage.memory h (fresh {}) [] with ⟨hopen, hdrawer, _, _, hmobile⟩
  have hdesktops : moments.countP Moment.flipsDesktop = 1 := by decide
  have hdrawers : moments.countP Moment.flipsDrawer = 3 := by decide
  have hcrosses : moments.countP (Moment.crosses Storage.memory) = 1 := by decide
  refine ⟨h, hdesktops, ?_, hdrawers, ?_, hcrosses, hmobile.mp ?_⟩
  · rw [hopen, hdesktops]
    rfl
  · rw [hdrawer, hdrawers]
    rfl
  · rw [hcrosses]
    decide

end Sidebar

end DashKit
