import MmuFirmware.Logic.Commands

/-!
The unload nested in a cut, an eject or a tool change. Its owner changes it only by the
operations of the unload itself, so what these preserve the owner preserves.
-/
namespace MmuFirmware

/-- What the resets of an unload preserve. -/
structure UnloadFilament.Restarts (P : UnloadFilament → Prop) : Prop where
  reset : ∀ {c : UnloadFilament} (m : Modules), P c → P (reset c m).1
  reset2 : ∀ {c : UnloadFilament} (m : Modules), P c → P (reset2 c m).1

/-- What the operations of an unload preserve. -/
structure UnloadFilament.Preserve (P : UnloadFilament → Prop) : Prop extends Restarts P where
  stepInner : ∀ {c : UnloadFilament} (m : Modules), P c → P (stepInner c m).2.1

namespace EjectFilament

variable {c : EjectFilament} {m : Modules}

theorem moveSelectorAside_unl : (moveSelectorAside c m).1.data.unl = c.data.unl := by
  rw [moveSelectorAside]
  generalize (if c.data.slot ≤ 2 then 4 else 0 : UInt8) = selectorParkedPos
  dsimp only
  split <;> rfl

theorem errDisengagingIdler_unl : (c.errDisengagingIdler m).1.data.unl = c.data.unl := by
  rw [Command.errDisengagingIdler]
  split <;> rfl

/-- Only the step that runs the nested unload touches it. -/
theorem stepInner_unl (hstate : c.state ≠ .unloadingFilament) :
    (stepInner c m).2.1.data.unl = c.data.unl := by
  rw [stepInner]
  split
  · contradiction
  · split <;> rfl
  · split <;> rfl
  · split <;> rfl
  · exact errDisengagingIdler_unl
  · dsimp only
    split
    · split
      · rfl
      · split
        · exact moveSelectorAside_unl
        · rfl
    · rfl
  · rfl
  · rfl

variable {P : UnloadFilament → Prop}

theorem reset_preserves (hP : UnloadFilament.Restarts P) (h : P c.data.unl) (param : UInt8) :
    P (reset c param m).2.1.data.unl := by
  rw [reset, Command.checkToolIndex]
  by_cases hinvalid : param ≥ Config.toolCount
  · rw [if_pos hinvalid]
    exact h
  · rw [if_neg hinvalid]
    dsimp only
    rw [if_neg (by decide)]
    split
    · exact hP.reset _ h
    · rw [moveSelectorAside_unl]
      exact h

theorem stepInner_preserves (hP : UnloadFilament.Preserve P) (h : P c.data.unl) :
    P (stepInner c m).2.1.data.unl := by
  by_cases hstate : c.state = .unloadingFilament
  · rw [stepInner, hstate]
    dsimp only
    split
    · rw [moveSelectorAside_unl]
      exact hP.stepInner _ h
    · exact hP.stepInner _ h
  · rw [stepInner_unl hstate]
    exact h

end EjectFilament

namespace CutFilament

variable {c : CutFilament} {m : Modules}

theorem moveSelector_unl {slot : UInt8} : (moveSelector c slot m).1.data.unl = c.data.unl := by
  rw [moveSelector]
  dsimp only
  split <;> rfl

theorem selectFilamentSlot_unl : (selectFilamentSlot c m).1.data.unl = c.data.unl := by
  rw [selectFilamentSlot]
  exact moveSelector_unl

theorem errDisengagingIdler_unl : (c.errDisengagingIdler m).1.data.unl = c.data.unl := by
  rw [Command.errDisengagingIdler]
  split <;> rfl

/-- Elsewhere the nested unload is touched only by starting all over again. -/
theorem stepInner_unl (hstate : c.state ≠ .unloadingFilament)
    (hwaiting : c.state ≠ .errWaitingForUser) :
    (stepInner c m).2.1.data.unl = c.data.unl := by
  rw [stepInner]
  split
  · contradiction
  · split
    · dsimp only
      split <;> rfl
    · rfl
  · dsimp only
    split
    · split <;> rfl
    · rfl
  · dsimp only
    split
    · split
      · rfl
      · exact moveSelector_unl
    · rfl
  · split <;> rfl
  · split <;> rfl
  · split
    · exact moveSelector_unl
    · rfl
  · split <;> rfl
  · dsimp only
    split <;> rfl
  · split <;> rfl
  · rfl
  · exact errDisengagingIdler_unl
  · contradiction
  · rfl

variable {P : UnloadFilament → Prop}

theorem reset_preserves (hP : UnloadFilament.Restarts P) (h : P c.data.unl) (param : UInt8) :
    P (reset c param m).2.1.data.unl := by
  rw [reset, Command.checkToolIndex]
  by_cases hinvalid : param ≥ Config.toolCount
  · rw [if_pos hinvalid]
    exact h
  · rw [if_neg hinvalid]
    dsimp only
    rw [if_neg (by decide)]
    split
    · exact hP.reset _ h
    · rw [selectFilamentSlot_unl]
      exact h

theorem restart_preserves (hP : UnloadFilament.Restarts P) (h : P c.data.unl)
    (hstate : c.state ≠ .unloadingFilament) : P (stepInner c m).2.1.data.unl := by
  by_cases hwaiting : c.state = .errWaitingForUser
  · rw [stepInner, hwaiting]
    dsimp only
    split
    · exact reset_preserves hP h _
    · exact h
  · rw [stepInner_unl hstate hwaiting]
    exact h

theorem stepInner_preserves (hP : UnloadFilament.Preserve P) (h : P c.data.unl) :
    P (stepInner c m).2.1.data.unl := by
  by_cases hstate : c.state = .unloadingFilament
  · rw [stepInner, hstate]
    dsimp only
    split
    · rw [selectFilamentSlot_unl]
      exact hP.stepInner _ h
    · exact hP.stepInner _ h
  · exact restart_preserves hP.toRestarts h hstate

end CutFilament

namespace ToolChange

variable {c : ToolChange} {m : Modules}

theorem goToFeedingToFinda_unl : (goToFeedingToFinda c m).1.data.unl = c.data.unl := by
  rw [goToFeedingToFinda]
  dsimp only
  split <;> rfl

/-- Elsewhere the nested unload is touched only by starting all over again. -/
theorem stepInner_unl (hstate : c.state ≠ .unloadingFilament)
    (hwaiting : c.state ≠ .errWaitingForUser) :
    (stepInner c m).2.1.data.unl = c.data.unl := by
  rw [stepInner]
  split
  · contradiction
  · dsimp only
    split
    · split <;> rfl
    · rfl
  · dsimp only
    split
    · split <;> rfl
    · rfl
  · rfl
  · rw [Command.errDisengagingIdler]
    split <;> rfl
  · contradiction
  · rfl

variable {P : UnloadFilament → Prop}

theorem reset_preserves (hP : UnloadFilament.Restarts P) (h : P c.data.unl) (param : UInt8) :
    P (reset c param m).2.1.data.unl := by
  rw [reset, Command.checkToolIndex]
  by_cases hinvalid : param ≥ Config.toolCount
  · rw [if_pos hinvalid]
    exact h
  · rw [if_neg hinvalid]
    dsimp only
    rw [if_neg (by decide)]
    split
    · exact h
    · split
      · exact hP.reset2 _ h
      · split <;> exact h

theorem retry_preserves (hP : UnloadFilament.Restarts P) (h : P c.data.unl) :
    P (retry c m).1.data.unl := by
  have hfeeding : ∀ m, P (goToFeedingToFinda c m).1.data.unl := by
    intro m
    rw [goToFeedingToFinda_unl]
    exact h
  rw [retry]
  split
  · exact reset_preserves hP h _
  · split
    · exact hfeeding _
    · split
      · exact reset_preserves hP h _
      · exact hfeeding _

theorem restart_preserves (hP : UnloadFilament.Restarts P) (h : P c.data.unl)
    (hstate : c.state ≠ .unloadingFilament) : P (stepInner c m).2.1.data.unl := by
  by_cases hwaiting : c.state = .errWaitingForUser
  · rw [stepInner, hwaiting]
    dsimp only
    split
    · exact retry_preserves hP h
    · exact h
  · rw [stepInner_unl hstate hwaiting]
    exact h

theorem stepInner_preserves (hP : UnloadFilament.Preserve P) (h : P c.data.unl) :
    P (stepInner c m).2.1.data.unl := by
  by_cases hstate : c.state = .unloadingFilament
  · rw [stepInner, hstate]
    dsimp only
    split
    · rw [goToFeedingToFinda_unl]
      exact hP.stepInner _ h
    · exact hP.stepInner _ h
  · exact restart_preserves hP.toRestarts h hstate

end ToolChange

namespace CommandId

variable {id : CommandId} {c c' : id.Object} {m : Modules}

/-- The unload nested in a command, if it has one. -/
def nested : (id : CommandId) → id.Object → Option UnloadFilament
  | .cutFilament, c => some c.data.unl
  | .ejectFilament, c => some c.data.unl
  | .toolChange, c => some c.data.unl
  | .startUp, _ | .noCommand, _ | .home, _ | .loadFilament, _ | .moveSelector, _ | .setMode, _
  | .unloadFilament, _ => none

theorem nested_congr (hdata : c'.data = c.data) : id.nested c' = id.nested c := by
  cases id with
  | cutFilament | ejectFilament | toolChange =>
      show some c'.data.unl = some c.data.unl
      rw [hdata]
  | startUp | noCommand | home | loadFilament | moveSelector | setMode | unloadFilament => rfl

variable {P : UnloadFilament → Prop}

theorem nested_of_data (h : ∀ unl ∈ id.nested c, P unl) (hdata : c'.data = c.data) :
    ∀ unl ∈ id.nested c', P unl := by
  rw [nested_congr hdata]
  exact h

theorem reset_preserves (hP : UnloadFilament.Restarts P) (h : ∀ unl ∈ id.nested c, P unl)
    (param : UInt8) : ∀ unl ∈ id.nested (id.reset c param m).2.1, P unl := by
  cases id with
  | cutFilament =>
      rintro _ ⟨⟩
      exact CutFilament.reset_preserves hP (h _ rfl) param
  | ejectFilament =>
      rintro _ ⟨⟩
      exact EjectFilament.reset_preserves hP (h _ rfl) param
  | toolChange =>
      rintro _ ⟨⟩
      exact ToolChange.reset_preserves hP (h _ rfl) param
  | startUp | noCommand | home | loadFilament | moveSelector | setMode | unloadFilament =>
      exact fun _ hunl => absurd hunl (Option.not_mem_none _)

theorem stepInner_preserves (hP : UnloadFilament.Preserve P) (h : ∀ unl ∈ id.nested c, P unl) :
    ∀ unl ∈ id.nested (id.stepInner c m).2.1, P unl := by
  cases id with
  | cutFilament =>
      rintro _ ⟨⟩
      exact CutFilament.stepInner_preserves hP (h _ rfl)
  | ejectFilament =>
      rintro _ ⟨⟩
      exact EjectFilament.stepInner_preserves hP (h _ rfl)
  | toolChange =>
      rintro _ ⟨⟩
      exact ToolChange.stepInner_preserves hP (h _ rfl)
  | startUp | noCommand | home | loadFilament | moveSelector | setMode | unloadFilament =>
      exact fun _ hunl => absurd hunl (Option.not_mem_none _)

end CommandId

end MmuFirmware
