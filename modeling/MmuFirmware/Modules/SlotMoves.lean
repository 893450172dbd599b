import MmuFirmware.Modules.Transitions

/-!
When a movable sets out for a slot. The idler does so with valid coordinates only: homed, or
at the end of a homing. The selector does not home where a filament is recorded in it, and
sets out without being asked whether it knows where it is.
-/
namespace MmuFirmware
namespace Movable

variable {ε : Type}

/-- A call other than a resume that leads into the moving state has executed
`PrepareMoveToPlannedSlot`. -/
def SetsOut (m m' : Movable ε) : Prop := m.isIn .moving = false ∧ m'.isIn .moving = true

/-- The coordinates are valid and no homing is under way. -/
def Located (m : Movable ε) : Prop := m.homingValid = true ∧ ¬ m.Homing

/-- The last step of a homing: the axis has stalled at its other end and proved long enough,
and its driver works. -/
structure FinishesHoming (k : Kind ε) (m m' : Movable ε) : Prop where
  state : m.state = .homeBack
  onHold : m.onHold = false
  driver : m.axis.checkForErrors.1 = false
  stallGuard : m.axis.stallGuard = true
  measured : k.minimumLength ≤ k.measured m
  initAxis : m.axis.initAxis.1 = true
  homingValid : m'.homingValid = true

/-- A homing invalidates the coordinates before it starts. -/
def Cautious (m : Movable ε) : Prop := m.Homing → m.homingValid = false

theorem Cautious.located {m : Movable ε} (h : m.Cautious) (hvalid : m.homingValid = true) :
    m.Located := by
  refine ⟨hvalid, fun hhoming => ?_⟩
  rw [h hhoming] at hvalid
  cases hvalid

theorem isIn_iff {m : Movable ε} {s : MovableState} : m.isIn s = true ↔ m.Enters s := by
  rw [isIn, Bool.and_eq_true, beq_iff_eq, Bool.not_eq_true']
  exact ⟨fun h => ⟨h.1, h.2⟩, fun h => ⟨h.state, h.onHold⟩⟩

theorem isIn_eq_false {m : Movable ε} {s : MovableState} (h : m.state ≠ s) : m.isIn s = false := by
  rw [Bool.eq_false_iff]
  exact fun hin => h (isIn_iff.mp hin).state

theorem isIn_congr {m m' : Movable ε} (hstate : m'.state = m.state) (hhold : m'.onHold = m.onHold)
    (s : MovableState) : m'.isIn s = m.isIn s := by
  rw [isIn, isIn, hstate, hhold]

theorem Enters.not_homing {m : Movable ε} {s : MovableState} (h : m.Enters s)
    (hs : s ≠ .plannedHome ∧ s ≠ .homeForward ∧ s ≠ .homeBack) : ¬ m.Homing := by
  rw [Homing, h.state]
  rintro (h | h | h)
  · exact hs.1 h
  · exact hs.2.1 h
  · exact hs.2.2 h

variable {k : Kind ε} {o : Occasion} {m m' : Movable ε}

theorem Cautious.changes (hm : m.Cautious) (h : m.Changes k o m') : m'.Cautious := by
  have hcongr (hstate : m'.state = m.state) (hvalid : m'.homingValid = m.homingValid) :
      m'.Cautious := by
    intro hhoming
    rw [Homing, hstate] at hhoming
    exact hvalid.trans (hm hhoming)
  cases h with
  | runs hsame | records hsame => exact hcongr hsame.state hsame.homingValid
  | aborts _ h | holds _ h | resumes _ h =>
      subst h
      exact hcongr rfl rfl
  | invalidates _ _ hvalid | plansHome _ hvalid | homingFails _ hvalid => exact fun _ => hvalid
  | setsOut _ _ _ hstate | driverFails hstate | arrives _ _ _ hstate =>
      exact fun hhoming => absurd hhoming (hstate.not_homing (by decide))
  | startsHoming hstate _ _ _ _ hvalid => exact fun _ => hvalid.trans (hm (.inl hstate))
  | turnsBack hstate _ hvalid => exact fun _ => hvalid.trans (hm (.inr (.inl hstate)))
  | homes _ _ _ _ _ _ _ hmoves =>
      intro hhoming
      rcases hmoves with ⟨-, hstate, -⟩ | ⟨hstate, -⟩
      · exact absurd hhoming (hstate.not_homing (by decide))
      · exact absurd hhoming (hstate.not_homing (by decide))

/-- A movable sets out where a request may go, or where it has just been homed. -/
theorem Changes.setsOut_cases (h : m.Changes k o m') (hresume : ¬ o.resume)
    (hout : m.SetsOut m') :
    (o.go ∧ m.isIn .homeBack = false) ∨ (o.finish ∧ m.FinishesHoming k m') := by
  have hcongr (hstate : m'.state = m.state) (hhold : m'.onHold = m.onHold) : ¬ m.SetsOut m' :=
    fun hout => absurd (hout.2.symm.trans (isIn_congr hstate hhold _)) (by rw [hout.1]; decide)
  have henters {s : MovableState} (hstate : m'.Enters s) (hs : s ≠ .moving) : ¬ m.SetsOut m' :=
    fun hout => hs (hstate.state.symm.trans (isIn_iff.mp hout.2).state)
  cases h with
  | runs hsame | records hsame => exact absurd hout (hcongr hsame.state hsame.onHold)
  | aborts _ h =>
      subst h
      exact absurd hout (hcongr rfl rfl)
  | holds _ h => exact absurd (isIn_iff.mp hout.2).onHold (by simp [h, holdOn])
  | resumes hmay => exact absurd hmay hresume
  | invalidates hstate hhold => exact absurd hout (hcongr hstate hhold)
  | plansHome hstate =>
      refine absurd hout (henters hstate ?_)
      rcases k.homingStart_homing with h | h <;> rw [h] <;> decide
  | setsOut _ hback hgo => exact .inl ⟨hgo, hback⟩
  | driverFails hstate => exact absurd hout (henters hstate (by decide))
  | arrives _ _ _ hstate => exact absurd hout (henters hstate (by decide))
  | startsHoming _ _ _ _ hstate => exact absurd hout (henters hstate (by decide))
  | turnsBack _ hstate => exact absurd hout (henters hstate (by decide))
  | homingFails hstate => exact absurd hout (henters hstate (by decide))
  | homes hstate hhold hdriver hstall hfinish hmeasured hvalid hmoves =>
      rcases hmoves with ⟨hinit, -⟩ | ⟨hfailed, -⟩
      · exact .inr ⟨hfinish, hstate, hhold, hdriver, hstall, hmeasured, hinit, hvalid⟩
      · exact absurd hout (henters hfailed (by decide))

end Movable

theorem accepted_ne_refused : OperationResult.accepted ≠ .refused := by decide

/-- The idler refuses before it takes anything over. -/
theorem Idler.planMoveInner_refused (i : Idler) (g : Globals) (slot : UInt8)
    (plannedOp : IdlerOperation) (h : (i.planMoveInner g slot plannedOp).1 = .refused) :
    (i.planMoveInner g slot plannedOp).2 = i := by
  revert h
  rw [planMoveInner]
  split
  · exact fun _ => rfl
  · dsimp only
    split
    · exact fun h => absurd h accepted_ne_refused
    · split
      · exact fun h => absurd h accepted_ne_refused
      · split <;> exact fun h => absurd h accepted_ne_refused

/-- The selector takes the slot over before it asks FINDA. -/
theorem Selector.moveToSlot_refused_iff (s : Selector) (g : Globals) (finda : Bool) (slot : UInt8)
    (h : (Selector.moveToSlot s g finda slot).1 = .refused) :
    (Selector.moveToSlot s g finda slot).2 = s ↔ s.isIn .moving = true ∨ s.plannedSlot = slot := by
  revert h
  rw [moveToSlot]
  split
  · next hmoving => exact fun _ => ⟨fun _ => .inl hmoving, fun _ => rfl⟩
  · next hmoving =>
    dsimp only
    split
    · exact fun h => absurd h accepted_ne_refused
    · split
      · exact fun h => absurd h accepted_ne_refused
      · split
        · intro _
          constructor
          · exact fun hkept => .inr (congrArg Movable.plannedSlot hkept).symm
          · intro hslot
            rw [← hslot.resolve_left hmoving]
        · split <;> exact fun h => absurd h accepted_ne_refused

namespace Modules

/-- The call is not a resume, which goes on with a move planned before. -/
def Plans (c : ModuleCall) : Prop := c ≠ .idler .resume ∧ c ≠ .selector .resume

/-- No movable sets out in the call for a slot without knowing where it is. -/
structure SlotMovesLocated (m : Modules) (c : ModuleCall) : Prop where
  idler : Plans c → m.idler.SetsOut (m.call c).1.idler →
    m.idler.Located ∨ m.idler.FinishesHoming Idler.kind (m.call c).1.idler
  selector : Plans c → m.selector.SetsOut (m.call c).1.selector →
    m.selector.Located ∨ m.selector.FinishesHoming Selector.kind (m.call c).1.selector

/-- The selector is told to go to a slot while its coordinates are invalid, it is neither
moving nor on its way back from the front end, FINDA is not pressed and a filament is
recorded to be in the selector. -/
def BlindMove (m : Modules) (c : ModuleCall) : Prop :=
  (∃ slot, c = .selector (.moveToSlot slot)) ∧ m.selector.isIn .moving = false ∧
    m.selector.isIn .homeBack = false ∧ m.selector.homingValid = false ∧
    m.finda.pressed = false ∧ .inSelector ≤ m.filamentLoaded

variable {m : Modules} {c : ModuleCall}

structure Cautious (m : Modules) : Prop where
  idler : m.idler.Cautious
  selector : m.selector.Cautious

theorem Cautious.call (h : m.Cautious) (c : ModuleCall) : (m.call c).1.Cautious := by
  cases c with
  | idler c => exact ⟨h.idler.changes (Idler.changes_call _ _ _), h.selector⟩
  | selector c => exact ⟨h.idler, h.selector.changes (Selector.changes_call _ _ _)⟩
  | setFilamentLoaded | eraseEEPROM | others => exact ⟨h.idler, h.selector⟩

theorem not_setsOut {ε : Type} (m : Movable ε) : ¬ m.SetsOut m := by
  rintro ⟨hbefore, hafter⟩
  exact absurd (hafter.symm.trans hbefore) (by decide)

/-- The idler never sets out without knowing where it is. -/
theorem idler_located (h : m.idler.Cautious) (hplans : Plans c)
    (hout : m.idler.SetsOut (m.call c).1.idler) :
    m.idler.Located ∨ m.idler.FinishesHoming Idler.kind (m.call c).1.idler := by
  cases c with
  | idler c =>
      have hchanges := Idler.changes_call m.idler m.globals c
      rcases hchanges.setsOut_cases (fun hresume => hplans.1 (congrArg _ hresume)) hout with
        ⟨hvalid, -⟩ | ⟨-, hfinishes⟩
      · exact .inl (h.located hvalid)
      · exact .inr hfinishes
  | selector | setFilamentLoaded | eraseEEPROM | others => exact absurd hout (not_setsOut _)

/-- Nor does the selector, unless it is told to move blindly. -/
theorem selector_located (h : m.selector.Cautious) (hblind : ¬ m.BlindMove c) (hplans : Plans c)
    (hout : m.selector.SetsOut (m.call c).1.selector) :
    m.selector.Located ∨ m.selector.FinishesHoming Selector.kind (m.call c).1.selector := by
  cases c with
  | selector c =>
      have hchanges := Selector.changes_call m.selector m.surroundings c
      rcases hchanges.setsOut_cases (fun hresume => hplans.2 (congrArg _ hresume)) hout with
        ⟨⟨⟨slot, hslot⟩, hfinda, hknown⟩, hback⟩ | ⟨-, hfinishes⟩
      · left
        have hvalid : m.selector.homingValid = true := by
          by_contra hinvalid
          exact hblind ⟨⟨slot, by rw [hslot]⟩, hout.1, hback, by simpa using hinvalid, hfinda,
            hknown.resolve_left hinvalid⟩
        exact h.located hvalid
      · exact .inr hfinishes
  | idler | setFilamentLoaded | eraseEEPROM | others => exact absurd hout (not_setsOut _)

theorem BlindMove.setsOut (h : m.BlindMove c) :
    Plans c ∧ m.selector.SetsOut (m.call c).1.selector ∧
      m.selector.homingValid = false ∧ (m.call c).1.selector.homingValid = false := by
  obtain ⟨⟨slot, rfl⟩, hmoving, hback, hvalid, hfinda, hloaded⟩ := h
  refine ⟨⟨by simp, by simp⟩, ?_⟩
  have hcall : (m.call (.selector (.moveToSlot slot))).1.selector =
      (Movable.initMovementNoReinitAxis { m.selector with plannedSlot := slot }
        (Selector.prepareMoveToPlannedSlot m.globals)).2 := by
    have hback' : ({ m.selector with plannedSlot := slot } : Selector).isIn .homeBack = false :=
      hback
    show (Selector.moveToSlot m.selector m.globals m.finda.pressed slot).2 = _
    rw [Selector.moveToSlot, if_neg (by simp [hmoving]), if_neg (by simp [hback']),
      if_neg (by simp [hvalid]), if_neg (by simp [hfinda]),
      if_neg fun hhome => absurd hhome.2 (UInt8.not_lt.mpr hloaded)]
  rw [hcall]
  exact ⟨⟨hmoving, rfl⟩, hvalid, hvalid⟩

theorem slotMovesLocated_iff (h : m.Cautious) (c : ModuleCall) :
    m.SlotMovesLocated c ↔ ¬ m.BlindMove c := by
  constructor
  · intro hlocated hblind
    obtain ⟨hplans, hout, hinvalid, hinvalid'⟩ := hblind.setsOut
    rcases hlocated.selector hplans hout with ⟨hvalid, -⟩ | hfinishes
    · exact absurd (hvalid.symm.trans hinvalid) (by decide)
    · exact absurd (hfinishes.homingValid.symm.trans hinvalid') (by decide)
  · exact fun hblind => ⟨idler_located h.idler, selector_located h.selector hblind⟩

end Modules
end MmuFirmware
