import MmuFirmware.Modules.Machine

/-!
What goes on beside the logic. The idler engages and disengages as planned and in no other
way; an axis that has failed stays failed until the logic plans something for it; which slot
is active and where its filament is changes only by the logic.
-/
namespace MmuFirmware

/-- Moves that have been planned may have been finished. -/
structure IdlerEngagement.Finishes (e e' : IdlerEngagement) : Prop where
  plannedMove : e'.plannedMove = e.plannedMove
  currentlyEngaged :
    e'.currentlyEngaged = e.currentlyEngaged ∨ e'.currentlyEngaged = e.plannedMove

theorem IdlerEngagement.Finishes.refl (e : IdlerEngagement) : e.Finishes e := ⟨rfl, .inl rfl⟩

theorem IdlerEngagement.Finishes.trans {e e' e'' : IdlerEngagement} (h : e.Finishes e')
    (h' : e'.Finishes e'') : e.Finishes e'' := by
  refine ⟨h'.plannedMove.trans h.plannedMove, ?_⟩
  rcases h'.currentlyEngaged with heq | heq
  · rw [heq]
    exact h.currentlyEngaged
  · rw [heq, h.plannedMove]
    exact .inr rfl

namespace Movable

variable {ε : Type} (m : Movable ε)

def failed : Prop := m.state = .tmcFailed ∨ m.state = .homingFailed

instance : Decidable m.failed := inferInstanceAs (Decidable (_ ∨ _))

@[simp] theorem planHome_ext (sgThrs : UInt8) (plan : Movable ε → Movable ε)
    (hplan : ∀ m, (plan m).ext = m.ext) : (m.planHome sgThrs plan).2.ext = m.ext := by
  rw [planHome]
  dsimp only
  split
  · rfl
  · rw [hplan]
    rfl

@[simp] theorem homeFailed_ext : m.homeFailed.ext = m.ext := rfl

@[simp] theorem checkTMC_ext : m.checkTMC.ext = m.ext := by
  rw [checkTMC]
  dsimp only
  split <;> rfl

theorem checkTMC_failed (h : m.failed) : m.checkTMC.failed := by
  rw [checkTMC]
  dsimp only
  split
  · exact .inl rfl
  · exact h

/-- The driver is asked for errors unless it has reported one already. -/
theorem checkUnlessFailed_failed (h : m.failed) :
    (if m.state = .tmcFailed then m else m.checkTMC).failed := by
  split
  · exact h
  · exact m.checkTMC_failed h

@[simp] theorem checkUnlessFailed_ext :
    (if m.state = .tmcFailed then m else m.checkTMC).ext = m.ext := by
  split <;> simp

theorem performHomeForward_ext (allowed : Movable ε → Bool → Bool)
    (plan : Movable ε → Movable ε) (hplan : ∀ m, (plan m).ext = m.ext) :
    (m.performHomeForward allowed plan).ext = m.ext := by
  rw [performHomeForward]
  dsimp only
  split
  · split
    · exact hplan _
    · rfl
  · split <;> rfl

theorem performHomeBack_ext (g : Globals) (allowed : Movable ε → Bool → Bool)
    (finish : Movable ε → Bool × Movable ε) (hfinish : ∀ m, (finish m).2.ext = m.ext) :
    (m.performHomeBack g allowed finish).ext = m.ext := by
  rw [performHomeBack]
  dsimp only
  split
  · split
    · split <;> split <;> exact hfinish _
    · rfl
  · split <;> rfl

end Movable

namespace Idler

variable (i : Idler) (g : Globals)

@[simp] theorem planHome_ext : (Idler.planHome i g).2.ext = i.ext :=
  Movable.planHome_ext i _ _ fun _ => rfl

theorem finishHoming_ext : (finishHomingAndPlanMoveToParkPos g i).2.ext = i.ext := by
  rw [finishHomingAndPlanMoveToParkPos]
  dsimp only
  split
  · rfl
  · simp only [Movable.initMovement, Movable.initMovementNoReinitAxis]
    split <;> split <;> rfl

theorem step_finishes : i.ext.Finishes (i.step g).ext := by
  rw [step]
  split
  · exact .refl _
  · dsimp only
    have hext := i.checkUnlessFailed_ext
    generalize (if i.state = .tmcFailed then i else i.checkTMC) = i' at hext ⊢
    rw [← hext]
    split
    · rw [Movable.performMove]
      split
      · exact ⟨rfl, .inr rfl⟩
      · exact .refl _
    · have hforward := Movable.performHomeForward_ext i' stallGuardAllowed (planHomingMoveBack g)
        fun _ => rfl
      rw [hforward]
      exact .refl _
    · have hback := Movable.performHomeBack_ext i' g stallGuardAllowed _
        fun i => finishHoming_ext i g
      rw [hback]
      exact .refl _
    · split
      · rw [planHome_ext]
        exact .refl _
      · exact .refl _
    · exact .refl _

theorem step_failed (h : i.failed) : (i.step g).failed := by
  rw [step]
  split
  · exact h
  · dsimp only
    have hfailed := i.checkUnlessFailed_failed h
    generalize (if i.state = .tmcFailed then i else i.checkTMC) = i' at hfailed ⊢
    rcases id hfailed with hstate | hstate <;> simpa [hstate] using hfailed

end Idler

theorem Selector.step_failed (s : Selector) (g : Globals) (finda idlerHomingValid : Bool)
    (h : s.failed) : (s.step g finda idlerHomingValid).failed := by
  rw [step]
  split
  · exact h
  · dsimp only
    have hfailed := s.checkUnlessFailed_failed h
    generalize (if s.state = .tmcFailed then s else s.checkTMC) = s' at hfailed ⊢
    rcases id hfailed with hstate | hstate <;> simpa [hstate] using hfailed

theorem Pulley.step_failed (p : Pulley) (h : p.failed) : p.step.failed := by
  rw [step]
  split
  · exact h
  · dsimp only
    have hfailed := p.checkUnlessFailed_failed h
    generalize (if p.state = .tmcFailed then p else p.checkTMC) = p' at hfailed ⊢
    rcases id hfailed with hstate | hstate <;> simpa [hstate] using hfailed

namespace Modules

def failed (m : Modules) : Axis → Prop
  | .pulley => m.pulley.failed
  | .selector => m.selector.failed
  | .idler => m.idler.failed

instance (m : Modules) : (axis : Axis) → Decidable (m.failed axis)
  | .pulley => inferInstanceAs (Decidable m.pulley.failed)
  | .selector => inferInstanceAs (Decidable m.selector.failed)
  | .idler => inferInstanceAs (Decidable m.idler.failed)

/-- The logic has done nothing that matters to a command in progress. -/
structure Keeps (m m' : Modules) : Prop where
  activeSlot : m'.activeSlot = m.activeSlot
  filamentLoaded : m'.filamentLoaded = m.filamentLoaded
  idler : m.idler.ext.Finishes m'.idler.ext

theorem Keeps.refl (m : Modules) : m.Keeps m := ⟨rfl, rfl, .refl _⟩

theorem Keeps.trans {m m' m'' : Modules} (h : m.Keeps m') (h' : m'.Keeps m'') : m.Keeps m'' :=
  ⟨h'.activeSlot.trans h.activeSlot, h'.filamentLoaded.trans h.filamentLoaded,
    h.idler.trans h'.idler⟩

/-- The modules have gone on by themselves; no failure has gone away. -/
structure Proceeds (m m' : Modules) : Prop extends Keeps m m' where
  failed : ∀ axis, m.failed axis → m'.failed axis

theorem Proceeds.refl (m : Modules) : m.Proceeds m := ⟨.refl m, fun _ h => h⟩

theorem Proceeds.trans {m m' m'' : Modules} (h : m.Proceeds m') (h' : m'.Proceeds m'') :
    m.Proceeds m'' :=
  ⟨h.toKeeps.trans h'.toKeeps, fun axis hfailed => h'.failed axis (h.failed axis hfailed)⟩

/-- What touches neither the filament record nor more of an axis than its motor. -/
theorem proceeds_of_eq {m m' : Modules} (hglobals : m'.globals.activeSlot = m.globals.activeSlot)
    (hfilament : m'.globals.filamentLoaded = m.globals.filamentLoaded)
    (hidler : m'.idler.ext = m.idler.ext) (hidlerState : m'.idler.state = m.idler.state)
    (hselector : m'.selector.state = m.selector.state)
    (hpulley : m'.pulley.state = m.pulley.state) : m.Proceeds m' := by
  refine ⟨⟨hglobals, hfilament, ?_⟩, ?_⟩
  · rw [hidler]
    exact .refl _
  · intro axis h
    cases axis <;> simpa only [failed, Movable.failed, hidlerState, hselector, hpulley] using h

end Modules

end MmuFirmware
