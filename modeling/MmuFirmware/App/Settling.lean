import MmuFirmware.App.Histories
import MmuFirmware.Logic.Settling

/-!
Homing always comes to an end. Whatever state a run of the firmware has left the idler and the
selector in, they are at rest after a bounded number of iterations in which nobody calls them.
-/
namespace MmuFirmware

open Transducer

namespace Modules

/-- What keeps a homing from waiting for a stall that cannot come. -/
structure FitToHome (m : Modules) : Prop where
  idler : m.idler.axis.Armed
  idlerState : m.idler.state ≠ .plannedHome
  selector : m.selector.axis.Armed

variable {m n : Modules}

theorem FitToHome.call (h : m.FitToHome) (c : ModuleCall) : (m.call c).1.FitToHome := by
  cases c with
  | idler c =>
      exact ⟨Idler.armed_call h.idler _ c, Idler.ne_plannedHome_call h.idlerState _ c, h.selector⟩
  | selector c => exact ⟨h.idler, h.idlerState, Selector.armed_call h.selector _ c⟩
  | setFilamentLoaded | eraseEEPROM | others => exact ⟨h.idler, h.idlerState, h.selector⟩

theorem FitToHome.reaches {P : ModuleCall → Prop} (h : m.FitToHome) (hreaches : m.Reaches P n) :
    n.FitToHome := by
  obtain ⟨calls, -, rfl⟩ := hreaches
  exact run_invariant Modules.call (fun m _ => m.FitToHome) m h (fun _ _ c h => h.call c) calls

variable (m)

def idlerHomes : Bool := m.globals.filamentLoaded < .inFSensor

def selectorHomes : Bool := m.globals.filamentLoaded < .inSelector

/-- The selector waits for an idler that does not home any more. -/
def Stranded : Prop :=
  m.selector.state = .plannedHome ∧ m.idler.homingValid = false ∧ m.idler.Rests m.idlerHomes

instance : Decidable m.Stranded := inferInstanceAs (Decidable (_ ∧ _ ∧ _))

/-- Neither movable does anything by itself. -/
def AtRest : Prop :=
  m.idler.Rests m.idlerHomes ∧ (m.selector.Rests m.selectorHomes ∨ m.Stranded)

def idlerWay : Nat := m.idler.wayLeft m.idlerHomes Idler.stroke

def selectorWay : Nat :=
  if m.Stranded then 0 else m.selector.wayLeft m.selectorHomes Selector.stroke

/-- The way ahead of the two movables. -/
def wayLeft : Nat := m.idlerWay + m.selectorWay

variable {m}

theorem selectorWay_le : m.selectorWay ≤ m.selector.wayLeft m.selectorHomes Selector.stroke := by
  rw [selectorWay]
  split
  · exact Nat.zero_le _
  · exact Nat.le_refl _

theorem atRest_of_wayLeft (h : m.wayLeft = 0) : m.AtRest := by
  obtain ⟨hidler, hselector⟩ := Nat.add_eq_zero_iff.mp h
  refine ⟨Movable.rests_of_wayLeft hidler, ?_⟩
  by_cases hstranded : m.Stranded
  · exact .inr hstranded
  · rw [selectorWay, if_neg hstranded] at hselector
    exact .inl (Movable.rests_of_wayLeft hselector)

/-- No more than six stages with the longest of moves, and the moves under way. -/
theorem wayLeft_le_stages : m.wayLeft ≤
    6 * (Idler.stroke + 2) + m.idler.axis.stepsLeft +
      (6 * (Selector.stroke + 2) + m.selector.axis.stepsLeft) :=
  Nat.add_le_add (Movable.wayLeft_le_stages _ _ _)
    (selectorWay_le.trans (Movable.wayLeft_le_stages _ _ _))

/-- The modules after the motors have moved and the two movables have made their step. -/
structure MovesOn (i : Interrupts) (m n : Modules) : Prop where
  globals : n.globals = m.globals
  idler : n.idler = Idler.step (Movable.tick m.idler i.idler) m.globals
  selector : n.selector =
    Selector.step (Movable.tick m.selector i.selector) m.globals false n.idler.homingValid

section MovesOn

variable {i : Interrupts} (hfit : m.FitToHome) (h : m.MovesOn i n)
include h

theorem MovesOn.idlerHomes : n.idlerHomes = m.idlerHomes := by
  rw [Modules.idlerHomes, Modules.idlerHomes, h.globals]

theorem MovesOn.selectorHomes : n.selectorHomes = m.selectorHomes := by
  rw [Modules.selectorHomes, Modules.selectorHomes, h.globals]

theorem MovesOn.idler_rests (hidler : m.idler.Rests m.idlerHomes) :
    n.idler.Rests n.idlerHomes ∧ n.idler.homingValid = m.idler.homingValid := by
  have htick : (Movable.tick m.idler i.idler).Rests m.idlerHomes :=
    Movable.rests_iff.mpr (Movable.stagesLeft_tick.2.mpr (Movable.rests_iff.mp hidler))
  rw [h.idlerHomes, h.idler]
  exact Idler.rests_step rfl htick

/-- A selector that waits for the idler in vain goes on waiting. -/
theorem MovesOn.selectorWay_of_stranded (hstranded : m.Stranded) : n.selectorWay = 0 := by
  obtain ⟨hstate, hinvalid, hidler⟩ := hstranded
  obtain ⟨hsettled, hvalid⟩ := h.idler_rests hidler
  have hstate' : (Movable.tick m.selector i.selector).state = .plannedHome := hstate
  have hwaits := Selector.waits_step m.globals n.selectorHomes hstate'
  have hselector := h.selector
  rw [hvalid, hinvalid] at hselector
  rw [← hselector] at hwaits
  rw [selectorWay]
  rcases hwaits with hrests | ⟨hwaiting, -⟩
  · rw [Movable.wayLeft_of_rests (Movable.rests_iff.mp hrests), ite_self]
  · exact if_pos ⟨hwaiting, hvalid.trans hinvalid, hsettled⟩

include hfit

theorem MovesOn.selectorWay_of_rests (hidler : m.idler.Rests m.idlerHomes)
    (hmoves : m.selector.axis.queueEmpty = false → i.selector.Moves) :
    n.selectorWay ≤ m.selectorWay - 1 := by
  by_cases hstranded : m.Stranded
  · rw [h.selectorWay_of_stranded hstranded]
    exact Nat.zero_le _
  · have hle : n.selectorWay ≤ _ := selectorWay_le
    have hway : m.selectorWay = m.selector.wayLeft m.selectorHomes Selector.stroke :=
      if_neg hstranded
    rw [hway]
    rw [h.selectorHomes, h.selector] at hle
    by_cases hrests : m.selector.stagesLeft m.selectorHomes = 0
    · have hsettled : (Movable.tick m.selector i.selector).Rests m.selectorHomes :=
        Movable.rests_iff.mpr (Movable.stagesLeft_tick.2.mpr hrests)
      have hstays : (Selector.step _ m.globals false n.idler.homingValid).Rests
          m.selectorHomes := Selector.rests_step rfl _ hsettled
      rw [Movable.wayLeft_of_rests (Movable.rests_iff.mp hstays)] at hle
      exact hle.trans (Nat.zero_le _)
    · have hgoes : m.selector.state = .plannedHome → n.idler.homingValid = true := by
        intro hstate
        rw [(h.idler_rests hidler).2, ← Bool.not_eq_false]
        exact fun hinvalid => hstranded ⟨hstate, hinvalid, hidler⟩
      have hlt := Selector.wayLeft_step_lt (g := m.globals) hfit.selector rfl hmoves hrests hgoes
      exact Nat.le_sub_one_of_lt (Nat.lt_of_le_of_lt hle hlt)

/-- Each step after which FINDA reads released shortens the way. -/
theorem wayLeft_movesOn (hidler : m.idler.axis.queueEmpty = false → i.idler.Moves)
    (hselector : m.selector.axis.queueEmpty = false → i.selector.Moves) :
    n.wayLeft ≤ m.wayLeft - 1 := by
  rw [wayLeft, wayLeft]
  by_cases hrests : m.idler.stagesLeft m.idlerHomes = 0
  · have hsettled := Movable.rests_iff.mpr hrests
    have hstays := Movable.rests_iff.mp (h.idler_rests hsettled).1
    rw [idlerWay, idlerWay, Movable.wayLeft_of_rests hstays, Movable.wayLeft_of_rests hrests,
      Nat.zero_add, Nat.zero_add]
    exact h.selectorWay_of_rests hfit hsettled hselector
  · have hlt : n.idlerWay < m.idlerWay := by
      rw [idlerWay, idlerWay, h.idlerHomes, h.idler]
      exact Idler.wayLeft_step_lt hfit.idler hfit.idlerState rfl hidler hrests
    have hle : n.selectorWay ≤ m.selectorWay := by
      refine selectorWay_le.trans ?_
      have hmoving : ¬ m.Stranded := fun h => hrests (Movable.rests_iff.mp h.2.2)
      rw [selectorWay, if_neg hmoving, h.selectorHomes, h.selector]
      exact Selector.wayLeft_step_le hfit.selector rfl hselector
    omega

end MovesOn

end Modules

namespace World

/-- An iteration of the main loop in which nobody calls a movable. -/
def proceed (w : World) (i : LoopInput) : World × Unit :=
  ((w.interrupt i.beforeModules).stepModules i, ())

/-- Motors with moves left make some steps, and FINDA reads released. -/
structure KeepsMoving (w : World) (i : LoopInput) : Prop where
  idler : w.modules.idler.axis.queueEmpty = false → i.beforeModules.idler.Moves
  selector : w.modules.selector.axis.queueEmpty = false → i.beforeModules.selector.Moves
  findaReleased : (w.proceed i).1.modules.finda.pressed = false

/-- The boards of which the hardware test has found nothing have that much ahead, at most. -/
structure Ahead (w : World) (k : Nat) : Prop where
  sane : w.hwSanityError = .ok
  fit : w.modules.FitToHome
  way : w.modules.wayLeft ≤ k

theorem Ahead.deliverPanic {w : World} {k : Nat} (h : w.Ahead k) : w.deliverPanic.Ahead k := by
  rw [World.deliverPanic]
  split
  · exact ⟨h.sane, ⟨h.fit.idler, h.fit.idlerState, h.fit.selector⟩, h.way⟩
  · exact h

theorem finda_deliverPanic (w : World) : w.deliverPanic.modules.finda = w.modules.finda := by
  rw [World.deliverPanic]
  split <;> rfl

theorem Ahead.proceed {w : World} {k : Nat} {i : LoopInput} (h : w.Ahead k)
    (hmoves : w.KeepsMoving i) : (w.proceed i).1.Ahead (k - 1) := by
  have hreleased := hmoves.findaReleased
  have hsane : (w.interrupt i.beforeModules).hwSanityError = .ok := h.sane
  rw [World.proceed, stepModules, if_pos hsane] at hreleased ⊢
  rw [finda_deliverPanic] at hreleased
  have hreaches := reaches_stepMovables (reaches_stepInputs (reaches_tick (.refl w.modules)
    i.beforeModules) i.buttonsADC) i.findaPin
  have hmovesOn : w.modules.MovesOn i.beforeModules
      (((w.modules.interrupt i.beforeModules).stepInputs i.buttonsADC).stepMovables i.findaPin) :=
    ⟨rfl, rfl, congrArg (fun pressed => Selector.step _ _ pressed _) hreleased⟩
  exact Ahead.deliverPanic ⟨h.sane, h.fit.reaches hreaches,
    (Modules.wayLeft_movesOn h.fit hmovesOn hmoves.idler hmoves.selector).trans
      (Nat.sub_le_sub_right h.way 1)⟩

end World

namespace BootInput

variable (b : BootInput)

theorem fitToHome_run (inputs : List LoopInput) : (b.run inputs).modules.FitToHome := by
  obtain ⟨calls, hperforms⟩ := b.run_performs inputs
  have hmodules : b.modules.FitToHome :=
    ⟨AxisData.armed_initAxis _, nofun, AxisData.armed_initAxis _⟩
  exact hmodules.reaches (P := fun _ => True) ⟨calls, fun _ _ => trivial, hperforms⟩

/-- Whatever a run of the firmware has left the movables in, they are at rest after six times
the longest move of each and the moves under way, unless somebody calls them meanwhile. -/
theorem movables_settle (before inputs : List LoopInput)
    (hsane : (b.run before).hwSanityError = .ok)
    (hmoves : ∀ p ∈ steps World.proceed (b.run before) inputs, p.1.KeepsMoving p.2)
    (hlong : 6 * (Idler.stroke + 2) + (b.run before).modules.idler.axis.stepsLeft +
        (6 * (Selector.stroke + 2) + (b.run before).modules.selector.axis.stepsLeft) ≤
      inputs.length) :
    (Transducer.run World.proceed (b.run before) inputs).modules.AtRest := by
  have hahead : (b.run before).Ahead inputs.length :=
    ⟨hsane, b.fitToHome_run before, Modules.wayLeft_le_stages.trans hlong⟩
  have hafter := ahead_zero_of_length World.proceed World.Ahead World.KeepsMoving
    (fun _ _ _ h hmoves => h.proceed hmoves) _ _ hahead inputs hmoves
  rw [Nat.sub_self] at hafter
  exact Modules.atRest_of_wayLeft (Nat.le_zero.mp hafter.way)

/-- Every iteration some steps of both motors, and FINDA released. -/
def turning : LoopInput where
  beforeModules := { idler := { pulses := [(1, false)] }, selector := { pulses := [(1, false)] } }

theorem moves_turning :
    turning.beforeModules.idler.Moves ∧ turning.beforeModules.selector.Moves := by
  decide

theorem finda_proceed_turning (w : World) (hreleased : w.modules.finda.state = .waiting) :
    (w.proceed turning).1.modules.finda = w.modules.finda := by
  have hstep (time : UInt16) : w.modules.finda.step time false = w.modules.finda := by
    rw [Debouncer.step, hreleased]
    rfl
  rw [World.proceed, World.stepModules, World.finda_deliverPanic]
  dsimp only
  split
  · exact hstep _
  · rfl

theorem keepsMoving_turning (n : Nat) (w : World) (hreleased : w.modules.finda.state = .waiting) :
    ∀ p ∈ steps World.proceed w (List.replicate n turning), p.1.KeepsMoving p.2 := by
  induction n generalizing w with
  | zero => simp
  | succ n ih =>
      have hstays : (w.proceed turning).1.modules.finda = w.modules.finda :=
        finda_proceed_turning w hreleased
      rw [List.replicate_succ, steps_cons, List.forall_mem_cons]
      refine ⟨⟨fun _ => moves_turning.1, fun _ => moves_turning.2, ?_⟩, ih _ ?_⟩
      · rw [hstays, Debouncer.pressed, hreleased]
        rfl
      · rw [hstays]
        exact hreleased

theorem movables_settle_turning :
    (Transducer.run World.proceed (({} : BootInput).run [])
      (List.replicate 208025 turning)).modules.AtRest :=
  movables_settle {} [] _ rfl (keepsMoving_turning _ _ rfl) (by rw [List.length_replicate]; decide)

end BootInput

end MmuFirmware
