import MmuFirmware.Logic.HeldIdler
import MmuFirmware.Modules.EngagedIdler

/-!
When the pulley begins to drive a filament. The automata that move one wait in their state
`EngagingIdler` until `Engaged()` holds, and plan their first pulley move in the step in which they
leave it. Until then their commands do nothing.
-/
namespace MmuFirmware

/-- The step plans a move of the pulley, with the idler engaged. -/
structure Modules.Drives (m m' : Modules) : Prop where
  engaged : m.idler.engaged = true
  pulley : m'.pulley.state = .moving

/-- What waits goes on waiting, or drives the filament. -/
def WaitsOrDrives {α : Type} (f : α) (m : Modules) (step : Bool × α × Modules) : Prop :=
  step = (false, f, m) ∨ step.1 = false ∧ m.Drives step.2.2

/-- A part that waits or drives has the whole do so, as long as the whole only keeps the part while
that goes on. -/
theorem WaitsOrDrives.within {α γ : Type} {f : α} {m : Modules} {step : Bool × α × Modules}
    {c : γ} {whole : Bool × γ × Modules} (h : WaitsOrDrives f m step) (put : α → γ)
    (hput : put f = c) (hwhole : step.1 = false → whole = (false, put step.2.1, step.2.2)) :
    WaitsOrDrives c m whole := by
  rcases h with heq | ⟨hgoes, hdrives⟩
  · left
    rw [hwhole (by rw [heq]), heq, hput]
  · rw [hwhole hgoes]
    exact .inr ⟨rfl, hdrives⟩

section Automata

variable {m : Modules} {slot : UInt8}

/-- The slot the automaton waits to have engaged. -/
def FeedToFinda.engaging (f : FeedToFinda) (m : Modules) : Option UInt8 :=
  if f.state = .engagingIdler then some m.activeSlot else none

theorem FeedToFinda.waitsOrDrives_step {f : FeedToFinda} (h : f.engaging m = some slot) :
    WaitsOrDrives f m (f.step m) := by
  rw [engaging, Option.ite_none_right_eq_some] at h
  rw [step, h.1]
  dsimp only
  split
  · next hguard =>
      right
      split
      · exact ⟨rfl, hguard.1, rfl⟩
      · exact ⟨rfl, hguard.1, rfl⟩
  · exact .inl rfl

def FeedToBondtech.engaging (f : FeedToBondtech) (m : Modules) : Option UInt8 :=
  if f.state = .engagingIdler then some m.activeSlot else none

theorem FeedToBondtech.waitsOrDrives_step {f : FeedToBondtech} (h : f.engaging m = some slot) :
    WaitsOrDrives f m (f.step m) := by
  rw [engaging, Option.ite_none_right_eq_some] at h
  rw [step, h.1]
  dsimp only
  split
  · next hengaged => exact .inr ⟨rfl, hengaged, rfl⟩
  · exact .inl rfl

def RetractFromFinda.engaging (f : RetractFromFinda) (m : Modules) : Option UInt8 :=
  if f.state = .engagingIdler then some m.activeSlot else none

theorem RetractFromFinda.waitsOrDrives_step {f : RetractFromFinda} (h : f.engaging m = some slot) :
    WaitsOrDrives f m (f.step m) := by
  rw [engaging, Option.ite_none_right_eq_some] at h
  rw [step, h.1]
  dsimp only
  split
  · next hengaged => exact .inr ⟨rfl, hengaged, rfl⟩
  · exact .inl rfl

end Automata

section Commands

variable {m : Modules} {slot : UInt8}

namespace LoadFilament

/-- The slot the part of the command that runs waits to have engaged. -/
def engaging (c : LoadFilament) (m : Modules) : Option UInt8 :=
  match c.state with
  | .feedingToFinda => c.data.feed.engaging m
  | .retractingFromFinda => c.data.retract.engaging m
  | _ => none

theorem waitsOrDrives_stepInner {c : LoadFilament} (h : c.engaging m = some slot) :
    WaitsOrDrives c m (stepInner c m) := by
  rw [engaging] at h
  split at h
  · next hstate =>
      refine (FeedToFinda.waitsOrDrives_step h).within
        (fun feed => { c with data := { c.data with feed } }) rfl fun hgoes => ?_
      rw [stepInner, hstate]
      dsimp only
      rw [hgoes]
      rfl
  · next hstate =>
      refine (RetractFromFinda.waitsOrDrives_step h).within
        (fun retract => { c with data := { c.data with retract } }) rfl fun hgoes => ?_
      rw [stepInner, hstate]
      dsimp only
      rw [hgoes]
      rfl
  · cases h

end LoadFilament

namespace UnloadFilament

def engaging (c : UnloadFilament) (m : Modules) : Option UInt8 :=
  match c.state with
  | .feedingToFinda => c.data.feed.engaging m
  | .retractingFromFinda => c.data.retract.engaging m
  | _ => none

theorem waitsOrDrives_stepInner {c : UnloadFilament} (h : c.engaging m = some slot) :
    WaitsOrDrives c m (stepInner c m) := by
  rw [engaging] at h
  split at h
  · next hstate =>
      refine (FeedToFinda.waitsOrDrives_step h).within
        (fun feed => { c with data := { c.data with feed } }) rfl fun hgoes => ?_
      rw [stepInner, hstate]
      dsimp only
      rw [hgoes]
      rfl
  · next hstate =>
      refine (RetractFromFinda.waitsOrDrives_step h).within
        (fun retract => { c with data := { c.data with retract } }) rfl fun hgoes => ?_
      rw [stepInner, hstate]
      dsimp only
      rw [hgoes]
      rfl
  · cases h

end UnloadFilament

namespace ToolChange

def engaging (c : ToolChange) (m : Modules) : Option UInt8 :=
  match c.state with
  | .unloadingFilament => c.data.unl.engaging m
  | .feedingToFinda => c.data.feed.engaging m
  | .feedingToBondtech => c.data.james.engaging m
  | _ => none

theorem waitsOrDrives_stepInner {c : ToolChange} (h : c.engaging m = some slot) :
    WaitsOrDrives c m (stepInner c m) := by
  rw [engaging] at h
  split at h
  · next hstate =>
      refine (UnloadFilament.waitsOrDrives_stepInner h).within
        (fun unl => { c with data := { c.data with unl } }) rfl fun hgoes => ?_
      rw [stepInner, hstate]
      dsimp only
      rw [hgoes]
      rfl
  · next hstate =>
      refine (FeedToFinda.waitsOrDrives_step h).within
        (fun feed => { c with data := { c.data with feed } }) rfl fun hgoes => ?_
      rw [stepInner, hstate]
      dsimp only
      rw [hgoes]
      rfl
  · next hstate =>
      refine (FeedToBondtech.waitsOrDrives_step h).within
        (fun james => { c with data := { c.data with james } }) rfl fun hgoes => ?_
      rw [stepInner, hstate]
      dsimp only
      rw [hgoes]
      rfl
  · cases h

end ToolChange

namespace CutFilament

def engaging (c : CutFilament) (m : Modules) : Option UInt8 :=
  match c.state with
  | .unloadingFilament => c.data.unl.engaging m
  | .feedingToFinda => c.data.feed.engaging m
  | .retractingFromFinda => c.data.retract.engaging m
  | _ => none

theorem waitsOrDrives_stepInner {c : CutFilament} (h : c.engaging m = some slot) :
    WaitsOrDrives c m (stepInner c m) := by
  rw [engaging] at h
  split at h
  · next hstate =>
      refine (UnloadFilament.waitsOrDrives_stepInner h).within
        (fun unl => { c with data := { c.data with unl } }) rfl fun hgoes => ?_
      rw [stepInner, hstate]
      dsimp only
      rw [hgoes]
      rfl
  · next hstate =>
      refine (FeedToFinda.waitsOrDrives_step h).within
        (fun feed => { c with data := { c.data with feed } }) rfl fun hgoes => ?_
      rw [stepInner, hstate]
      dsimp only
      rw [hgoes]
      rfl
  · next hstate =>
      refine (RetractFromFinda.waitsOrDrives_step h).within
        (fun retract => { c with data := { c.data with retract } }) rfl fun hgoes => ?_
      rw [stepInner, hstate]
      dsimp only
      rw [hgoes]
      rfl
  · cases h

end CutFilament

namespace EjectFilament

/-- The command itself waits to have the slot engaged that is to be ejected. -/
def engaging (c : EjectFilament) (m : Modules) : Option UInt8 :=
  match c.state with
  | .unloadingFilament => c.data.unl.engaging m
  | .engagingIdler => some c.data.slot
  | _ => none

theorem waitsOrDrives_stepInner {c : EjectFilament} (h : c.engaging m = some slot) :
    WaitsOrDrives c m (stepInner c m) := by
  rw [engaging] at h
  split at h
  · next hstate =>
      refine (UnloadFilament.waitsOrDrives_stepInner h).within
        (fun unl => { c with data := { c.data with unl } }) rfl fun hgoes => ?_
      rw [stepInner, hstate]
      dsimp only
      rw [hgoes]
      rfl
  · next hstate =>
      rw [stepInner, hstate]
      dsimp only
      split
      · next hengaged => exact .inr ⟨rfl, hengaged, rfl⟩
      · exact .inl rfl
  · cases h

end EjectFilament

end Commands

namespace CommandId

variable {id : CommandId} {c : id.Object} {m : Modules} {slot : UInt8}

def engaging : (id : CommandId) → id.Object → Modules → Option UInt8
  | .cutFilament, c, m => CutFilament.engaging c m
  | .ejectFilament, c, m => EjectFilament.engaging c m
  | .loadFilament, c, m => LoadFilament.engaging c m
  | .toolChange, c, m => ToolChange.engaging c m
  | .unloadFilament, c, m => UnloadFilament.engaging c m
  | .startUp, _, _ | .noCommand, _, _ | .home, _, _ | .moveSelector, _, _ | .setMode, _, _ => none

/-- The slot waited for where the step leaves the state in which the idler is being engaged. -/
def departs (id : CommandId) (c : id.Object) (m : Modules) : Option UInt8 :=
  if id.engaging (id.stepInner c m).2.1 (id.stepInner c m).2.2 = none then id.engaging c m else none

theorem waitsOrDrives_stepInner (h : id.engaging c m = some slot) :
    WaitsOrDrives c m (id.stepInner c m) := by
  cases id with
  | cutFilament => exact CutFilament.waitsOrDrives_stepInner h
  | ejectFilament => exact EjectFilament.waitsOrDrives_stepInner h
  | loadFilament => exact LoadFilament.waitsOrDrives_stepInner h
  | toolChange => exact ToolChange.waitsOrDrives_stepInner h
  | unloadFilament => exact UnloadFilament.waitsOrDrives_stepInner h
  | startUp | noCommand | home | moveSelector | setMode => cases h

/-- The step plans a pulley move, and the idler says that it is engaged. -/
theorem drives_of_departs (h : id.departs c m = some slot) :
    id.engaging c m = some slot ∧ m.Drives (id.stepInner c m).2.2 := by
  rw [departs, Option.ite_none_right_eq_some] at h
  obtain ⟨hleaves, hengaging⟩ := h
  refine ⟨hengaging, ?_⟩
  rcases waitsOrDrives_stepInner hengaging with heq | ⟨-, hdrives⟩
  · rw [heq, hengaging] at hleaves
    cases hleaves
  · exact hdrives

theorem engaging_of_state
    (hstate : c.state = .errInternal ∨ c.state = .errWaitingForUser) : id.engaging c m = none := by
  rcases hstate with hstate | hstate <;> cases id <;> first
    | rfl
    | simp only [engaging, CutFilament.engaging, EjectFilament.engaging, LoadFilament.engaging,
        ToolChange.engaging, UnloadFilament.engaging, hstate]

/-- What waits for the idler does not wait for the user. -/
theorem not_mayHold_of_engaging (h : id.engaging c m = some slot) : ¬ id.MayHold c := by
  have hunload {unl : UnloadFilament} (hunl : unl.engaging m = some slot) :
      unl.state ≠ .errWaitingForUser := by
    intro hwaits
    rw [UnloadFilament.engaging, hwaits] at hunl
    cases hunl
  rintro (hstate | hstate | ⟨hstate, unl, hnested, hwaits⟩)
  · rw [engaging_of_state (.inl hstate)] at h
    cases h
  · rw [engaging_of_state (.inr hstate)] at h
    cases h
  · cases id with
    | cutFilament =>
        cases hnested
        rw [engaging, CutFilament.engaging, hstate] at h
        exact hunload h hwaits
    | ejectFilament =>
        cases hnested
        rw [engaging, EjectFilament.engaging, hstate] at h
        exact hunload h hwaits
    | toolChange =>
        cases hnested
        rw [engaging, ToolChange.engaging, hstate] at h
        exact hunload h hwaits
    | startUp | noCommand | home | loadFilament | moveSelector | setMode | unloadFilament =>
        exact absurd hnested (Option.not_mem_none _)

end CommandId

namespace Running

variable {id : CommandId} {r : Running id.Data} {slot : UInt8}

/-- The slot whose filament the pulley begins to drive in the step. -/
def departs (r : Running id.Data) : Option UInt8 :=
  let (waiting, r) := r.waitForModulesErrorRecovery
  if waiting ∨ r.command.state = .errInternal then none else id.departs r.command r.modules

/-- The pulley begins to drive with an idler that says it is engaged, is not held and has not
failed. -/
theorem HeldIdler.of_departs (h : r.HeldIdler) (hdeparts : r.departs = some slot) :
    r.modules.Drives (r.step id.stepInner).2.modules ∧ r.modules.idler.onHold = false ∧
      ¬ r.modules.failed .idler := by
  have hwaited := h.waitForModules
  have hgoes := @goes_waitForModules _ r
  rw [departs] at hdeparts
  rw [Running.step]
  generalize r.waitForModulesErrorRecovery = w at hwaited hgoes hdeparts ⊢
  dsimp only at hdeparts ⊢
  split at hdeparts
  · cases hdeparts
  · next hgo =>
      rw [if_neg hgo]
      rw [not_or, Bool.not_eq_true] at hgo
      obtain ⟨hmodules, hworks⟩ := hgoes hgo.1
      obtain ⟨hengaging, hdrives⟩ := CommandId.drives_of_departs hdeparts
      rw [HeldIdler, hmodules] at hwaited
      rw [hmodules] at hengaging hdrives ⊢
      refine ⟨hdrives, ?_, hworks .idler⟩
      rw [← Bool.not_eq_true]
      exact fun hheld => CommandId.not_mayHold_of_engaging hengaging (hwaited hheld)

end Running

end MmuFirmware
