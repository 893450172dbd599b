import MmuFirmware.Modules.SlotMoves

/-!
What a movable reports once it is ready. It takes an empty queue for a finished move, so it
reports where it really is as long as nothing else takes a move from the queue of a movable
that is under way, and no other slot is planned for a selector that is held under way.
-/
namespace MmuFirmware
namespace Movable

variable {ε : Type}

/-- Where the movable is ready and knows its position, it is where it says. -/
def Truthful (k : Kind ε) (m : Movable ε) : Prop :=
  m.state = .ready → m.homingValid = true → m.currentSlot ≠ 0xff →
    m.axis.curPosition = k.reported m.currentSlot m.ext

/-- No axis has a move left where its movable is neither homing nor under way. -/
def Resting (m : Movable ε) : Prop :=
  m.onHold = true ∨ m.state = .ready ∨ m.state = .tmcFailed ∨ m.state = .homingFailed

structure OnCourse (k : Kind ε) (m : Movable ε) : Prop where
  cautious : m.Cautious
  resting : m.Resting → m.axis.blocks = []
  underWay : m.homingValid = true → m.state = .moving →
    m.axis.position = k.target m.plannedSlot m.ext
  arrived : m.homingValid = true → m.state = .ready → m.currentSlot ≠ 0xff →
    m.axis.position = k.reported m.currentSlot m.ext

variable {k : Kind ε} {o : Occasion} {m m' : Movable ε}

theorem OnCourse.truthful (h : m.OnCourse k) : m.Truthful k := by
  intro hstate hvalid hslot
  rw [curPosition_of_blocks_eq_nil (h.resting (.inr (.inl hstate)))]
  exact h.arrived hvalid hstate hslot

/-- Under way with valid coordinates. -/
def UnderWay (m : Movable ε) : Prop := m.homingValid = true ∧ m.state = .moving

theorem Enters.resting {s : MovableState} (h : m.Enters s) (hresting : m.Resting) :
    s = .ready ∨ s = .tmcFailed ∨ s = .homingFailed := by
  rcases hresting with hhold | hstate
  · exact absurd (h.onHold.symm.trans hhold) (by decide)
  · rwa [h.state] at hstate

/-- Where a movable knows its position and is not under way, its queue is empty. -/
theorem Located.resting (h : m.Located) (hmoving : m.isIn .moving = false) : m.Resting := by
  by_contra hresting
  rw [Resting, not_or, Bool.not_eq_true] at hresting
  rw [isIn, hresting.1] at hmoving
  obtain ⟨-, hhoming⟩ := h
  rw [Homing] at hhoming
  cases hstate : m.state <;> simp_all

/-- What enters a state with an empty queue, where it is neither ready nor under way. -/
theorem onCourse_of_enters {s : MovableState} (henters : m.Enters s) (hcautious : m.Cautious)
    (hblocks : m.axis.blocks = []) (hs : s ≠ .moving ∧ s ≠ .ready) : m.OnCourse k where
  cautious := hcautious
  resting _ := hblocks
  underWay _ hstate := absurd (henters.state.symm.trans hstate) hs.1
  arrived _ hstate := absurd (henters.state.symm.trans hstate) hs.2

theorem onCourse_of_invalid (hvalid : m.homingValid = false)
    (hresting : m.Resting → m.axis.blocks = []) : m.OnCourse k where
  cautious _ := hvalid
  resting := hresting
  underWay h := absurd (h.symm.trans hvalid) (by decide)
  arrived h := absurd (h.symm.trans hvalid) (by decide)

/-- What changes neither the state nor the report, as long as a movable that is under way still
goes to where it has to. -/
theorem OnCourse.transfer (h : m.OnCourse k) (hcautious : m'.Cautious)
    (hstate : m'.state = m.state) (hvalid : m'.homingValid = m.homingValid)
    (hslot : m'.currentSlot = m.currentSlot)
    (hreported : k.reported m'.currentSlot m'.ext = k.reported m.currentSlot m.ext)
    (hresting : m'.Resting → m'.axis.blocks = [])
    (hposition : m.axis.blocks = [] → m'.axis.position = m.axis.position)
    (hunderWay : m.UnderWay → m'.axis.position = k.target m'.plannedSlot m'.ext) :
    m'.OnCourse k where
  cautious := hcautious
  resting := hresting
  underWay hvalid' hmoving := hunderWay ⟨hvalid ▸ hvalid', hstate ▸ hmoving⟩
  arrived hvalid' hready hslot' := by
    rw [hvalid] at hvalid'
    rw [hstate] at hready
    rw [hslot] at hslot'
    rw [hposition (h.resting (.inr (.inl hready))), hreported]
    exact h.arrived hvalid' hready hslot'

theorem OnCourse.changes (h : m.OnCourse k) (hchanges : m.Changes k o m')
    (hcut : o.cut → m.UnderWay → m.axis.blocks = [])
    (hretarget : o.retarget → m.UnderWay → m.onHold = false) : m'.OnCourse k := by
  have hcautious := h.cautious.changes hchanges
  cases hchanges with
  | runs hsame htarget hposition hblocks =>
      refine h.transfer hcautious hsame.state hsame.homingValid hsame.currentSlot hsame.reported
        (fun hresting => ?_) (fun _ => hposition) fun hunder => ?_
      · rw [Resting, hsame.state, hsame.onHold] at hresting
        exact hblocks (h.resting hresting)
      · rw [hposition, htarget]
        exact h.underWay hunder.1 hunder.2
  | aborts hmay heq =>
      subst heq
      refine h.transfer hcautious rfl rfl rfl rfl (fun _ => rfl) curPosition_of_blocks_eq_nil
        fun hunder => ?_
      exact (curPosition_of_blocks_eq_nil (hcut hmay hunder)).trans (h.underWay hunder.1 hunder.2)
  | records hsame haxis hmoving hheld =>
      refine h.transfer hcautious hsame.state hsame.homingValid hsame.currentSlot hsame.reported
        (fun hresting => ?_) (fun _ => by rw [haxis]) fun hunder => ?_
      · rw [Resting, hsame.state, hsame.onHold] at hresting
        rw [haxis]
        exact h.resting hresting
      · have hhold : m.onHold = true := by
          rw [isIn, hunder.2] at hmoving
          simpa using hmoving
        rcases hheld hhold with hmay | htarget
        · exact absurd ((hretarget hmay hunder).symm.trans hhold) (by decide)
        · rw [haxis, htarget]
          exact h.underWay hunder.1 hunder.2
  | holds hmay heq =>
      subst heq
      have hposition (hblocks : m.axis.blocks = []) : m.holdOn.axis.position = m.axis.position :=
        (position_disable _).trans (curPosition_of_blocks_eq_nil hblocks)
      refine h.transfer hcautious rfl rfl rfl rfl (fun _ => (held_holdOn m).queue) hposition
        fun hunder => ?_
      exact (hposition (hcut hmay hunder)).trans (h.underWay hunder.1 hunder.2)
  | resumes hmay heq =>
      subst heq
      refine h.transfer hcautious rfl rfl rfl rfl (fun hresting => ?_) (fun _ => rfl)
        fun hunder => h.underWay hunder.1 hunder.2
      exact h.resting (hresting.imp (fun hhold => absurd hhold (by simp [resume])) id)
  | invalidates hstate hhold hvalid hblocks =>
      refine onCourse_of_invalid hvalid fun hresting => ?_
      rw [Resting, hstate, hhold] at hresting
      exact hblocks.trans (h.resting hresting)
  | plansHome hstate hvalid =>
      refine onCourse_of_invalid hvalid fun hresting => ?_
      rcases k.homingStart_homing with hk | hk <;>
        exact absurd (hstate.resting hresting) (by rw [hk]; decide)
  | setsOut hmoving hback hgo hstate hvalid hposition =>
      refine ⟨hcautious, fun hresting => ?_, fun hvalid' _ => hposition (h.resting ?_), ?_⟩
      · exact absurd (hstate.resting hresting) (by decide)
      · exact (h.cautious.located (hvalid ▸ hvalid')).resting hmoving
      · exact fun _ hready => absurd (hstate.state.symm.trans hready) (by decide)
  | driverFails hstate hvalid hblocks =>
      exact onCourse_of_enters hstate hcautious hblocks (by decide)
  | arrives hstate hhold hqueue hstate' hvalid hslot hreported hposition hblocks =>
      refine ⟨hcautious, fun _ => hblocks, fun _ hmoving => ?_, fun hvalid' _ _ => ?_⟩
      · exact absurd (hstate'.state.symm.trans hmoving) (by decide)
      · rw [hposition, hreported]
        exact h.underWay (hvalid.symm.trans hvalid') hstate
  | startsHoming hstate hhold _ _ hstate' hvalid =>
      refine onCourse_of_invalid (hvalid.trans (h.cautious (.inl hstate))) fun hresting => ?_
      exact absurd (hstate'.resting hresting) (by decide)
  | turnsBack hstate hstate' hvalid =>
      refine onCourse_of_invalid (hvalid.trans (h.cautious (.inr (.inl hstate)))) fun hresting => ?_
      exact absurd (hstate'.resting hresting) (by decide)
  | homingFails hstate hvalid hblocks => exact onCourse_of_invalid hvalid fun _ => hblocks
  | homes _ _ _ _ _ _ _ hmoves =>
      rcases hmoves with ⟨-, henters, hposition⟩ | ⟨henters, hblocks⟩
      · refine ⟨hcautious, fun hresting => ?_, fun _ _ => hposition, fun _ hready => ?_⟩
        · exact absurd (henters.resting hresting) (by decide)
        · exact absurd (henters.state.symm.trans hready) (by decide)
      · exact onCourse_of_enters henters hcautious hblocks (by decide)

end Movable

namespace Modules

/-- A movable is put on hold or loses its planned moves while it is under way. -/
def CutsShort (m : Modules) (c : ModuleCall) : Prop :=
  ((c = .idler .holdOn ∨ c = .idler (.axis .abortPlannedMoves)) ∧
    m.idler.UnderWay ∧ m.idler.axis.blocks ≠ []) ∨
  ((c = .selector .holdOn ∨ c = .selector (.axis .abortPlannedMoves)) ∧
    m.selector.UnderWay ∧ m.selector.axis.blocks ≠ [])

/-- A selector held under way is told to go to another slot than the one it has set out for,
and says that it is there already or refuses. -/
def Retargets (m : Modules) (c : ModuleCall) : Prop :=
  ∃ slot, c = .selector (.moveToSlot slot) ∧ m.selector.UnderWay ∧ m.selector.onHold = true ∧
    m.selector.plannedSlot ≠ slot ∧ (m.selector.currentSlot = slot ∨ m.finda.pressed = true)

structure OnCourse (m : Modules) : Prop where
  idler : m.idler.OnCourse Idler.kind
  selector : m.selector.OnCourse Selector.kind

/-- What the two movables report of themselves is true. -/
structure SlotsTruthful (m : Modules) : Prop where
  idler : m.idler.Truthful Idler.kind
  selector : m.selector.Truthful Selector.kind

theorem OnCourse.slotsTruthful {m : Modules} (h : m.OnCourse) : m.SlotsTruthful :=
  ⟨h.idler.truthful, h.selector.truthful⟩

theorem OnCourse.call {m : Modules} (h : m.OnCourse) {c : ModuleCall} (hcut : ¬ m.CutsShort c)
    (hretarget : ¬ m.Retargets c) : (m.call c).1.OnCourse := by
  cases c with
  | idler c =>
      refine ⟨h.idler.changes (Idler.changes_call _ _ c) (fun hmay hunder => ?_) nofun, h.selector⟩
      by_contra hblocks
      exact hcut (.inl ⟨hmay.imp (congrArg _) (congrArg _), hunder, hblocks⟩)
  | selector c =>
      refine ⟨h.idler, h.selector.changes (Selector.changes_call _ _ c) (fun hmay hunder => ?_)
        fun hmay hunder => ?_⟩
      · by_contra hblocks
        exact hcut (.inr ⟨hmay.imp (congrArg _) (congrArg _), hunder, hblocks⟩)
      · obtain ⟨slot, hslot, hother, hthere⟩ := hmay
        by_contra hhold
        exact hretarget ⟨slot, congrArg _ hslot, hunder, by simpa using hhold, hother,
          hthere hunder.1⟩
  | setFilamentLoaded | eraseEEPROM | others => exact ⟨h.idler, h.selector⟩

end Modules
end MmuFirmware
