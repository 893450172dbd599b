import MmuFirmware.Logic.FeedMachines
import MmuFirmware.Modules.Transitions

/-!
`FeedToBondtech` while it pushes the filament towards the printer. Between two polls the pulley
takes any number of steps, and the rest of the firmware does what it likes. How far the filament
has come the automaton tells from the number of moves that are left.
-/
namespace MmuFirmware

/-- The moves left when some steps of the first one have been taken. -/
def movesAfter (blocks : List Block) (n : Nat) : List Block :=
  match blocks with
  | [] => []
  | b :: rest =>
      if n < b.steps.natAbs then { b with steps := b.steps - b.steps.sign * n } :: rest else rest

theorem length_movesAfter_le (blocks : List Block) (n : Nat) :
    (movesAfter blocks n).length ≤ blocks.length := by
  cases blocks with
  | nil => exact Nat.le_refl _
  | cons b rest =>
      rw [movesAfter]
      split
      · exact Nat.le_refl _
      · exact Nat.le_succ _

theorem blocks_sampleDiag (a : AxisData) (diag : Bool) : (a.sampleDiag diag).blocks = a.blocks := by
  rw [AxisData.sampleDiag]
  split
  · rfl
  · split
    · rfl
    · split <;> rfl

theorem blocks_tick (a : AxisData) (i : AxisInput) :
    (a.tick i).blocks = i.pulses.foldl (fun blocks p => movesAfter blocks p.1) a.blocks := by
  rw [AxisData.tick]
  generalize ha : ({ a with registers := i.registers } : AxisData) = a'
  have hblocks : a.blocks = a'.blocks := by rw [← ha]
  rw [hblocks]
  clear ha hblocks
  induction i.pulses generalizing a' with
  | nil => rfl
  | cons p pulses ih =>
      have hpulse : (a'.pulse p.1 p.2).blocks = movesAfter a'.blocks p.1 := by
        rw [AxisData.pulse]
        cases hblocks : a'.blocks with
        | nil => exact hblocks
        | cons b rest => exact blocks_sampleDiag _ p.2
      rw [List.foldl_cons, List.foldl_cons, ih, hpulse]

namespace FeedToBondtech

/-- What happens up to a poll: steps of the pulley, and anything else. -/
structure Poll where
  steps : AxisInput
  world : Modules

namespace Poll

def pressed (p : Poll) : Bool := p.world.fsensor.pressed

/-- Only the moves of the pulley are known to go on from where they were. -/
def enter (p : Poll) (m : Modules) : Modules :=
  { p.world with
    pulley :=
      { p.world.pulley with
        axis :=
          { p.world.pulley.axis with
            position := (m.pulley.axis.tick p.steps).position
            blocks := (m.pulley.axis.tick p.steps).blocks } } }

end Poll

/-- The idler is engaged and the moves are planned. -/
def planned (m : Modules) : FeedToBondtech × Modules := (step { state := .engagingIdler } m).2

def poll (s : FeedToBondtech × Modules) (p : Poll) : (FeedToBondtech × Modules) × Unit :=
  ((s.1.step (p.enter s.2)).2, ())

/-- What the pulley alone makes of the planned moves. -/
def movesLeft (m : Modules) (polls : List Poll) : List Block :=
  polls.foldl (fun blocks p => p.steps.pulses.foldl (fun blocks q => movesAfter blocks q.1) blocks)
    (planned m).2.pulley.axis.blocks

/-- The number of slow moves planned behind the fast one: the second move has no length if the
bowden is as long as the longest one. -/
def slowMoves (m : Modules) : Nat :=
  if m.globals.storage.bowdenLength = Config.maximumBowdenLength then 0 else 1

/-- One of the polls found exactly one move left. -/
def FoundAlone (m : Modules) (polls : List Poll) : Prop :=
  ∃ seen, seen ≠ [] ∧ seen <+: polls ∧ (movesLeft m seen).length = 1

/-- A sensor that is pressed before the pulley has done the fast move stops the feed for good. -/
def DetectsEarly (m : Modules) (polls : List Poll) : Prop :=
  ∀ pre p post, polls = pre ++ p :: post → (∀ q ∈ pre, q.pressed = false) → p.pressed = true →
    slowMoves m < (movesLeft m (pre ++ [p])).length →
      (Transducer.run poll (planned m) (pre ++ [p])).2.pulley.axis.blocks = [] ∧
        ∀ more, more <+: post →
          (Transducer.run poll (planned m) (pre ++ p :: more)).1.state = .fsensorTooEarly

/-- No poll that finds the pulley's queue empty leaves the feed in its fast phase. -/
def NeverHangs (m : Modules) (polls : List Poll) : Prop :=
  ∀ pre p post, polls = pre ++ p :: post →
    (p.enter (Transducer.run poll (planned m) pre).2).pulley.axis.queueEmpty = true →
      (Transducer.run poll (planned m) (pre ++ [p])).1.state ≠ .pushingFilamentFast

variable {m : Modules} {s : FeedToBondtech × Modules} {polls : List Poll} {p : Poll}

theorem blocks_enter (p : Poll) (m : Modules) :
    (p.enter m).pulley.axis.blocks =
      p.steps.pulses.foldl (fun blocks q => movesAfter blocks q.1) m.pulley.axis.blocks :=
  blocks_tick m.pulley.axis p.steps

theorem movesLeft_concat (m : Modules) (polls : List Poll) (p : Poll) :
    movesLeft m (polls ++ [p]) =
      p.steps.pulses.foldl (fun blocks q => movesAfter blocks q.1) (movesLeft m polls) := by
  rw [movesLeft, List.foldl_append]
  rfl

theorem length_movesLeft_concat (m : Modules) (polls : List Poll) (p : Poll) :
    (movesLeft m (polls ++ [p])).length ≤ (movesLeft m polls).length := by
  rw [movesLeft_concat]
  generalize movesLeft m polls = blocks
  induction p.steps.pulses generalizing blocks with
  | nil => exact Nat.le_refl _
  | cons q pulses ih => exact Nat.le_trans (ih _) (length_movesAfter_le blocks q.1)

/-- The queue never grows. -/
theorem length_movesLeft_le {seen : List Poll} (h : seen <+: polls) :
    (movesLeft m polls).length ≤ (movesLeft m seen).length := by
  obtain ⟨rest, rfl⟩ := h
  induction rest using List.reverseRecOn with
  | nil => exact Nat.le_of_eq (by rw [List.append_nil])
  | append_singleton rest p ih =>
      rw [← List.append_assoc]
      exact Nat.le_trans (length_movesLeft_concat m _ p) ih

theorem foundAlone_concat :
    FoundAlone m (polls ++ [p]) ↔
      FoundAlone m polls ∨ (movesLeft m (polls ++ [p])).length = 1 := by
  constructor
  · rintro ⟨seen, hne, hprefix, halone⟩
    rcases List.prefix_concat_iff.mp hprefix with rfl | hbefore
    · exact .inr halone
    · exact .inl ⟨seen, hne, hbefore, halone⟩
  · rintro (⟨seen, hne, hprefix, halone⟩ | halone)
    · exact ⟨seen, hne, hprefix.trans (List.prefix_append _ _), halone⟩
    · exact ⟨_, List.append_ne_nil_of_right_ne_nil _ (List.cons_ne_nil _ _), List.prefix_refl _,
        halone⟩

/-! What the number of moves tells, if the queue was empty when the moves were planned. -/

theorem planMove_of_room {a : AxisData} (hroom : a.blocks.length ≠ Config.blockBufferSize)
    (delta : Int) (feedRate endRate : Nat) :
    (a.planMove delta feedRate endRate).position = a.position + delta ∧
      (a.planMove delta feedRate endRate).blocks =
        a.blocks ++ if delta = 0 then [] else [{ steps := delta, feedRate, endRate }] := by
  have hsetEnabled (a : AxisData) (enabled : Bool) :
      (a.setEnabled enabled).position = a.position ∧ (a.setEnabled enabled).blocks = a.blocks := by
    rw [AxisData.setEnabled]
    split <;> exact ⟨rfl, rfl⟩
  rw [AxisData.planMove, AxisData.planMoveTo, if_neg hroom]
  by_cases hzero : delta = 0
  · rw [hzero, Int.add_zero, if_pos rfl, if_pos rfl, List.append_nil]
    exact hsetEnabled _ true
  · have hne : a.position + delta ≠ a.position := by omega
    have hsteps : a.position + delta - a.position = delta := by omega
    rw [if_neg hne, if_neg hzero, hsteps]
    exact hsetEnabled _ true

/-- Steps left in a queue of moves. -/
def stepsIn (blocks : List Block) : Int := blocks.foldr (fun b steps => b.steps + steps) 0

theorem stepsIn_cons (b : Block) (blocks : List Block) :
    stepsIn (b :: blocks) = b.steps + stepsIn blocks := rfl

/-- The fast move is still queued and some of it is left, or only slow moves are. -/
inductive Ahead (fast : Int) (slow : List Block) : List Block → Prop where
  | fast (b : Block) (hpos : 0 < b.steps) (hle : b.steps ≤ fast) : Ahead fast slow (b :: slow)
  | slow (blocks : List Block) (hlength : blocks.length ≤ slow.length)
      (hpos : ∀ b ∈ blocks, 0 < b.steps) (hle : stepsIn blocks ≤ stepsIn slow) :
      Ahead fast slow blocks

theorem Ahead.movesAfter {fast : Int} {slow blocks : List Block} (hslow : ∀ b ∈ slow, 0 < b.steps)
    (h : Ahead fast slow blocks) (n : Nat) : Ahead fast slow (movesAfter blocks n) := by
  cases h with
  | fast b hpos hle =>
      have hsign := Int.sign_eq_one_of_pos hpos
      rw [MmuFirmware.movesAfter, hsign]
      split
      · refine .fast _ ?_ ?_
        · show 0 < b.steps - 1 * n
          omega
        · show b.steps - 1 * n ≤ fast
          omega
      · exact .slow slow (Nat.le_refl _) hslow (Int.le_refl _)
  | slow blocks hlength hpos hle =>
      cases blocks with
      | nil => exact .slow [] hlength hpos hle
      | cons b rest =>
          obtain ⟨hb, hrest⟩ := List.forall_mem_cons.mp hpos
          have hsign := Int.sign_eq_one_of_pos hb
          rw [stepsIn_cons] at hle
          rw [MmuFirmware.movesAfter, hsign]
          split
          · refine .slow _ hlength (List.forall_mem_cons.mpr ⟨?_, hrest⟩) ?_
            · show 0 < b.steps - 1 * n
              omega
            · rw [stepsIn_cons]
              show b.steps - 1 * n + _ ≤ _
              omega
          · refine .slow rest (Nat.le_of_succ_le hlength) hrest ?_
            omega

theorem bowdenLength_bounds (storage : PermanentStorage) :
    341 ≤ storage.bowdenLength.toNat ∧ storage.bowdenLength.toNat ≤ 1000 := by
  rw [PermanentStorage.bowdenLength]
  split
  · next hvalid =>
    rw [PermanentStorage.validBowdenLen, Bool.and_eq_true, decide_eq_true_eq, decide_eq_true_eq] at hvalid
    exact ⟨UInt16.le_iff_toNat_le.mp hvalid.1, UInt16.le_iff_toNat_le.mp hvalid.2⟩
  · decide

/-- Steps of the fast move. -/
def fastSteps (m : Modules) : Int := pulleySteps (m.globals.storage.bowdenLength.toNat * 100)

theorem axis_planned (hengaged : m.idler.engaged = true) : ∃ feedRate endRate feedRate' endRate',
    (planned m).2.pulley.axis =
      (m.pulley.axis.initAxis.2.planMove (fastSteps m) feedRate endRate).planMove
        (pulleySteps ((1000 - m.globals.storage.bowdenLength.toNat : Int) * 100))
        feedRate' endRate' := by
  rw [planned, step]
  dsimp only
  rw [if_pos hengaged]
  exact ⟨_, _, _, _, rfl⟩

/-- The fast move is planned first, and the slow one behind it unless it has no length. -/
theorem ahead_planned (hengaged : m.idler.engaged = true) (hempty : m.pulley.axis.blocks = []) :
    ∃ slow : List Block, Ahead (fastSteps m) slow (planned m).2.pulley.axis.blocks ∧
      slow.length = slowMoves m ∧ (∀ b ∈ slow, 0 < b.steps) ∧
      (planned m).2.pulley.axis.position =
        m.pulley.axis.position + fastSteps m + stepsIn slow := by
  obtain ⟨feedRate, endRate, feedRate', endRate', haxis⟩ := axis_planned hengaged
  obtain ⟨hlow, hhigh⟩ := bowdenLength_bounds m.globals.storage
  have hsteps (x : Int) (hx : 0 ≤ x) : pulleySteps x = x * 1600000000 / 1914727400 :=
    Int.tdiv_eq_ediv_of_nonneg (Int.mul_nonneg hx (by decide))
  have hfast : 0 < fastSteps m := by
    rw [fastSteps, hsteps _ (by omega)]
    omega
  have hslow := hsteps ((1000 - m.globals.storage.bowdenLength.toNat : Int) * 100) (by omega)
  have hmax : m.globals.storage.bowdenLength = Config.maximumBowdenLength ↔
      m.globals.storage.bowdenLength.toNat = 1000 := by
    rw [← UInt16.toNat_inj]
    rfl
  obtain ⟨hfirst, hblocks⟩ := @planMove_of_room m.pulley.axis.initAxis.2
    (by rw [blocks_initAxis, hempty]; decide) (fastSteps m) feedRate endRate
  rw [blocks_initAxis, hempty, if_neg (by omega), List.nil_append] at hblocks
  rw [position_initAxis] at hfirst
  obtain ⟨hposition, hboth⟩ := planMove_of_room (by rw [hblocks]; exact (by decide : 1 ≠ 4))
    (pulleySteps ((1000 - m.globals.storage.bowdenLength.toNat : Int) * 100)) feedRate' endRate'
  rw [haxis, hposition, hboth, hfirst, hblocks, slowMoves]
  by_cases hlongest : m.globals.storage.bowdenLength.toNat = 1000
  · have hzero : pulleySteps ((1000 - m.globals.storage.bowdenLength.toNat : Int) * 100) = 0 := by
      omega
    rw [if_pos hzero, if_pos (hmax.mpr hlongest), hzero]
    exact ⟨[], .fast _ hfast (Int.le_refl _), rfl, nofun, rfl⟩
  · have hpos : 0 < pulleySteps ((1000 - m.globals.storage.bowdenLength.toNat : Int) * 100) := by
      omega
    rw [if_neg (by omega), if_neg fun hlong => hlongest (hmax.mp hlong)]
    refine ⟨[⟨_, feedRate', endRate'⟩], .fast _ hfast (Int.le_refl _), rfl, fun b hb => ?_, ?_⟩
    · rw [List.mem_singleton.mp hb]
      exact hpos
    · rw [stepsIn, List.foldr_cons, List.foldr_nil, Int.add_zero]

theorem ahead_movesLeft {slow : List Block} (hslow : ∀ b ∈ slow, 0 < b.steps)
    (h : Ahead (fastSteps m) slow (planned m).2.pulley.axis.blocks) (polls : List Poll) :
    Ahead (fastSteps m) slow (movesLeft m polls) := by
  induction polls using List.reverseRecOn with
  | nil => exact h
  | append_singleton polls p ih =>
      rw [movesLeft_concat]
      generalize movesLeft m polls = blocks at ih
      induction p.steps.pulses generalizing blocks with
      | nil => exact ih
      | cons q pulses ih' => exact ih' _ (ih.movesAfter hslow q.1)

/-- As long as more moves are left than the slow ones, and only so long, the pulley has not covered
the distance of the fast move. -/
theorem slowMoves_lt_iff (hengaged : m.idler.engaged = true) (hempty : m.pulley.axis.blocks = [])
    (polls : List Poll) :
    slowMoves m < (movesLeft m polls).length ↔
      (planned m).2.pulley.axis.position - stepsIn (movesLeft m polls) <
        m.pulley.axis.position + fastSteps m := by
  obtain ⟨slow, hplanned, hlength, hslow, hposition⟩ := ahead_planned hengaged hempty
  have hahead := ahead_movesLeft hslow hplanned polls
  rw [hposition, ← hlength]
  generalize movesLeft m polls = left at hahead ⊢
  cases hahead with
  | fast b hpos hle =>
      rw [stepsIn_cons, List.length_cons]
      omega
  | slow blocks hshort hpos hle => omega

/-! One poll. -/

theorem poll_fast (p : Poll) (h : s.1.state = .pushingFilamentFast) :
    (poll s p).1 =
      if p.pressed then ({ state := .fsensorTooEarly }, (p.enter s.2).abortPlannedMoves)
      else if (p.enter s.2).pulley.axis.blocks.length = 1 then
        ({ state := .pushingFilamentToFSensor }, p.enter s.2)
      else (s.1, p.enter s.2) := by
  show (s.1.step (p.enter s.2)).2 = _
  have hpressed : (p.enter s.2).fsensor.pressed = p.pressed := rfl
  rw [step, h]
  dsimp only
  rw [hpressed]
  split
  · rfl
  · rw [AxisData.plannedMoves]
    split <;> rfl

/-- With the sensor not pressed the slow phase goes on or fails; the queue is left alone. -/
theorem poll_slow (h : s.1.state = .pushingFilamentToFSensor) (hpressed : p.pressed = false) :
    (poll s p).1.2 = p.enter s.2 ∧
      ((poll s p).1.1.state = .pushingFilamentToFSensor ∨ (poll s p).1.1.state = .failed) := by
  show (s.1.step (p.enter s.2)).2.2 = _ ∧
    ((s.1.step (p.enter s.2)).2.1.state = _ ∨ (s.1.step (p.enter s.2)).2.1.state = _)
  have hsensor : (p.enter s.2).fsensor.pressed = false := hpressed
  rw [step, h]
  dsimp only
  rw [hsensor, if_neg Bool.false_ne_true]
  split
  · exact ⟨rfl, .inr rfl⟩
  · exact ⟨rfl, .inl h⟩

theorem poll_done (h : s.1.state = .failed ∨ s.1.state = .fsensorTooEarly) :
    (poll s p).1 = (s.1, p.enter s.2) := by
  show (s.1.step (p.enter s.2)).2 = _
  rw [step]
  rcases h with h | h <;> rw [h]

/-- The states behind the fast phase. -/
def Past (state : FeedToBondtechState) : Prop :=
  state ≠ .engagingIdler ∧ state ≠ .pushingFilamentFast

instance (state : FeedToBondtechState) : Decidable (Past state) :=
  inferInstanceAs (Decidable (_ ∧ _))

theorem poll_past (h : Past s.1.state) : Past (poll s p).1.1.state := by
  show Past (s.1.step (p.enter s.2)).2.1.state
  rw [step]
  cases hstate : s.1.state with
  | engagingIdler => exact absurd hstate h.1
  | pushingFilamentFast => exact absurd hstate h.2
  | pushingFilamentToFSensor =>
      dsimp only
      split
      · exact (by decide : Past .pushingFilamentIntoNozzle)
      · split
        · exact (by decide : Past .failed)
        · exact h
  | pushingFilamentIntoNozzle =>
      dsimp only
      split
      · exact (by decide : Past .partiallyDisengagingIdler)
      · exact h
  | partiallyDisengagingIdler =>
      dsimp only
      split
      · exact (by decide : Past .disengagingIdler)
      · exact h
  | disengagingIdler =>
      dsimp only
      split
      · exact (by decide : Past .ok)
      · exact h
  | ok | failed | fsensorTooEarly => exact h

/-! The polls up to the first that finds the sensor pressed. -/

/-- What the polls so far have made of the feed. -/
structure Fed (m : Modules) (s : FeedToBondtech × Modules) (polls : List Poll) : Prop where
  planned : s.1.state ≠ .engagingIdler
  fast : s.1.state = .pushingFilamentFast → (∀ q ∈ polls, q.pressed = false) ∧ ¬ FoundAlone m polls
  left : (∀ q ∈ polls, q.pressed = false) → s.2.pulley.axis.blocks = movesLeft m polls
  still : (∀ q ∈ polls, q.pressed = false) → ¬ FoundAlone m polls →
    s.1.state = .pushingFilamentFast
  slow : (∀ q ∈ polls, q.pressed = false) → FoundAlone m polls →
    s.1.state = .pushingFilamentToFSensor ∨ s.1.state = .failed

theorem state_planned (hengaged : m.idler.engaged = true) :
    (planned m).1.state = .pushingFilamentFast := by
  rw [planned, step]
  dsimp only
  rw [if_pos hengaged]

theorem fed_planned (hengaged : m.idler.engaged = true) : Fed m (planned m) [] := by
  have hstate := state_planned hengaged
  have hnone : ¬ FoundAlone m [] := by
    rintro ⟨seen, hne, hprefix, -⟩
    exact hne (List.prefix_nil.mp hprefix)
  refine ⟨?_, fun _ => ⟨fun q hq => absurd hq List.not_mem_nil, hnone⟩, fun _ => ?_,
    fun _ _ => hstate, fun _ h => absurd h hnone⟩
  · rw [hstate]
    decide
  · rw [movesLeft, List.foldl_nil]

theorem Fed.poll (h : Fed m s polls) (p : Poll) : Fed m (poll s p).1 (polls ++ [p]) := by
  have hall : (∀ q ∈ polls ++ [p], q.pressed = false) ↔
      (∀ q ∈ polls, q.pressed = false) ∧ p.pressed = false := by
    rw [List.forall_mem_append, List.forall_mem_singleton]
  by_cases hfast : s.1.state = .pushingFilamentFast
  · obtain ⟨hpolls, hnone⟩ := h.fast hfast
    have hleft : (p.enter s.2).pulley.axis.blocks = movesLeft m (polls ++ [p]) := by
      rw [blocks_enter, h.left hpolls, movesLeft_concat]
    rw [poll_fast p hfast, hleft]
    cases hpressed : p.pressed with
    | true =>
        rw [if_pos rfl]
        have hpast : Past .fsensorTooEarly := by decide
        refine ⟨hpast.1, fun heq => absurd heq hpast.2, ?_, ?_, ?_⟩
        all_goals
          intro hunpressed
          rw [hall, hpressed] at hunpressed
          cases hunpressed.2
    | false =>
        rw [if_neg Bool.false_ne_true]
        split
        · next halone =>
          have hfound : FoundAlone m (polls ++ [p]) := foundAlone_concat.mpr (.inr halone)
          have hpast : Past .pushingFilamentToFSensor := by decide
          exact ⟨hpast.1, fun heq => absurd heq hpast.2, fun _ => hleft,
            fun _ hnot => absurd hfound hnot, fun _ _ => .inl rfl⟩
        · next hmore =>
          have hnot : ¬ FoundAlone m (polls ++ [p]) := by
            rw [foundAlone_concat, not_or]
            exact ⟨hnone, hmore⟩
          exact ⟨h.planned, fun _ => ⟨hall.mpr ⟨hpolls, hpressed⟩, hnot⟩, fun _ => hleft,
            fun _ _ => hfast, fun _ hfound => absurd hfound hnot⟩
  · have hpast := @poll_past s p ⟨h.planned, hfast⟩
    refine ⟨hpast.1, fun heq => absurd heq hpast.2, fun hunpressed => ?_, fun hunpressed hnot => ?_,
      fun hunpressed _ => ?_⟩
    all_goals
      obtain ⟨hpolls, hpressed⟩ := hall.mp hunpressed
    · have hfound : FoundAlone m polls := by
        by_contra hnone
        exact hfast (h.still hpolls hnone)
      rw [movesLeft_concat, ← h.left hpolls, ← blocks_enter]
      rcases h.slow hpolls hfound with hslow | hfailed
      · rw [(poll_slow hslow hpressed).1]
      · rw [poll_done (.inl hfailed)]
    · rw [foundAlone_concat, not_or] at hnot
      exact absurd (h.still hpolls hnot.1) hfast
    · have hfound : FoundAlone m polls := by
        by_contra hnone
        exact hfast (h.still hpolls hnone)
      rcases h.slow hpolls hfound with hslow | hfailed
      · exact (poll_slow hslow hpressed).2
      · rw [poll_done (.inl hfailed)]
        exact .inr hfailed

theorem fed_run (hengaged : m.idler.engaged = true) (polls : List Poll) :
    Fed m (Transducer.run poll (planned m) polls) polls :=
  Transducer.run_invariant poll (Fed m) (planned m) (fed_planned hengaged)
    (fun _ _ p h => h.poll p) polls

theorem run_tooEarly (h : s.1.state = .fsensorTooEarly) (more : List Poll) :
    (Transducer.run poll s more).1.state = .fsensorTooEarly := by
  induction more generalizing s with
  | nil => exact h
  | cons p more ih =>
      rw [Transducer.run_cons, poll_done (.inr h)]
      exact ih h

/-- The sensor is detected early in every timing if the slow move tells the phases apart, or else if
no poll before the one that finds it pressed found the fast move alone. -/
theorem detectsEarly_iff (hengaged : m.idler.engaged = true) (polls : List Poll) :
    DetectsEarly m polls ↔
      m.globals.storage.bowdenLength ≠ Config.maximumBowdenLength ∨
        ∀ pre p post, polls = pre ++ p :: post → (∀ q ∈ pre, q.pressed = false) →
          p.pressed = true → slowMoves m < (movesLeft m (pre ++ [p])).length →
            ¬ FoundAlone m pre := by
  constructor
  · refine fun hdetects => .inr fun pre p post hsplit hunpressed hpressed hearly hfound => ?_
    have hstopped := (hdetects pre p post hsplit hunpressed hpressed hearly).2 [] (List.nil_prefix)
    rw [Transducer.run_append, Transducer.run_cons, Transducer.run_nil] at hstopped
    generalize hs : Transducer.run poll (planned m) pre = s at hstopped
    have hfed : Fed m s pre := by
      rw [← hs]
      exact fed_run hengaged pre
    rcases hfed.slow hunpressed hfound with hslow | hfailed
    · have hnozzle : (poll s p).1.1.state = .pushingFilamentIntoNozzle := by
        show (s.1.step (p.enter s.2)).2.1.state = _
        have hsensor : (p.enter s.2).fsensor.pressed = true := hpressed
        rw [step, hslow]
        dsimp only
        rw [if_pos hsensor]
        rfl
      rw [hnozzle] at hstopped
      cases hstopped
    · rw [poll_done (.inl hfailed)] at hstopped
      rw [hfailed] at hstopped
      cases hstopped
  · intro hclear pre p post hsplit hunpressed hpressed hearly
    have hnot : ¬ FoundAlone m pre := by
      rcases hclear with hshorter | hclear
      · rintro ⟨seen, -, hseen, halone⟩
        have hle := @length_movesLeft_le m (pre ++ [p]) seen (hseen.trans (List.prefix_append _ _))
        rw [slowMoves, if_neg hshorter] at hearly
        omega
      · exact hclear pre p post hsplit hunpressed hpressed hearly
    have hfast := (fed_run hengaged pre).still hunpressed hnot
    have hstopped := poll_fast p hfast
    rw [hpressed, if_pos rfl] at hstopped
    refine ⟨?_, fun more _ => ?_⟩
    · rw [Transducer.run_append, Transducer.run_cons, Transducer.run_nil, hstopped]
      rfl
    · rw [Transducer.run_append, Transducer.run_cons]
      refine run_tooEarly ?_ more
      rw [hstopped]

/-- A feed hangs just if a poll finds the queue empty and the polls before found more than one move
in it, all of them without the sensor. -/
theorem neverHangs_iff (hengaged : m.idler.engaged = true) (polls : List Poll) :
    NeverHangs m polls ↔
      ∀ pre p post, polls = pre ++ p :: post → (∀ q ∈ pre ++ [p], q.pressed = false) →
        movesLeft m (pre ++ [p]) = [] → FoundAlone m pre := by
  have hleft (pre : List Poll) (p : Poll) (hunpressed : ∀ q ∈ pre, q.pressed = false) :
      (p.enter (Transducer.run poll (planned m) pre).2).pulley.axis.blocks =
        movesLeft m (pre ++ [p]) := by
    rw [blocks_enter, (fed_run hengaged pre).left hunpressed, movesLeft_concat]
  constructor
  · intro hgoes pre p post hsplit hunpressed hempty
    by_contra hnot
    obtain ⟨hpre, hp⟩ := List.forall_mem_append.mp hunpressed
    have hpressed : p.pressed = false := hp p List.mem_cons_self
    have hblocks := (hleft pre p hpre).trans hempty
    have hfast := (fed_run hengaged pre).still hpre hnot
    refine hgoes pre p post hsplit (by rw [AxisData.queueEmpty, hblocks]; rfl) ?_
    rw [Transducer.run_append, Transducer.run_cons, Transducer.run_nil, poll_fast p hfast, hpressed,
      if_neg Bool.false_ne_true, hblocks, if_neg (by decide)]
    exact hfast
  · intro hclear pre p post hsplit hempty hfast
    obtain ⟨hunpressed, hnot⟩ := (fed_run hengaged (pre ++ [p])).fast hfast
    have hpre : ∀ q ∈ pre, q.pressed = false := (List.forall_mem_append.mp hunpressed).1
    have hnil := hclear pre p post hsplit hunpressed
      ((hleft pre p hpre).symm.trans (Movable.blocks_of_queueEmpty hempty))
    exact hnot (foundAlone_concat.mpr (.inl hnil))

/-- Both at once, for every state in which the idler is engaged and the moves are planned, every
bowden length, and every timing of the sensor and of the steps. -/
theorem feed_polls_iff (m : Modules) (hengaged : m.idler.engaged = true) (polls : List Poll) :
    (DetectsEarly m polls ↔
      m.globals.storage.bowdenLength ≠ Config.maximumBowdenLength ∨
        ∀ pre p post, polls = pre ++ p :: post → (∀ q ∈ pre, q.pressed = false) →
          p.pressed = true → slowMoves m < (movesLeft m (pre ++ [p])).length →
            ¬ FoundAlone m pre) ∧
      (NeverHangs m polls ↔
        ∀ pre p post, polls = pre ++ p :: post → (∀ q ∈ pre ++ [p], q.pressed = false) →
          movesLeft m (pre ++ [p]) = [] → FoundAlone m pre) :=
  ⟨detectsEarly_iff hengaged polls, neverHangs_iff hengaged polls⟩

/-- The idler holds the filament of slot 0. -/
def engagedWith (bowdenLengthMM : UInt16) : Modules where
  millis := 0
  finda := { debounceTimeout := Config.findaDebounceMs }
  fsensor := { debounceTimeout := Config.fsensorDebounceMs }
  buttons := []
  userInput := {}
  leds := {}
  globals := .init { PermanentStorage.erased with bowdenLengthMM }
  idler := { Idler.powerOn with ext := { currentlyEngaged := .engage } }
  selector := .powerOn
  pulley := .powerOn
  lastCommandProcessedMs := 0

/-- So many steps for each move, then a poll. -/
def pollAfter (steps : List Nat) (pressed : Bool) : Poll where
  steps := { pulses := steps.map fun n => (n, true) }
  world :=
    { engagedWith 0 with
      fsensor :=
        { state := if pressed then .waitForRelease else .waiting
          debounceTimeout := Config.fsensorDebounceMs } }

theorem feed_polls_iff_usual : DetectsEarly (engagedWith 360) [pollAfter [1000] true] :=
  (feed_polls_iff (engagedWith 360) (by decide) _).1.mpr (.inl (by decide))

/-- With the longest bowden a sensor pressed after a millimetre does not stop the feed, and with the
shortest one the feed hangs if both moves end between two polls. -/
theorem feed_polls_fail :
    (¬ ∀ m : Modules, m.idler.engaged = true → m.pulley.axis.blocks = [] →
      ∀ polls, DetectsEarly m polls) ∧
      ¬ ∀ m : Modules, m.idler.engaged = true → m.pulley.axis.blocks = [] →
        ∀ polls, NeverHangs m polls := by
  constructor
  · intro h
    have hdetects := h (engagedWith 1000) (by decide) rfl
      [pollAfter [] false, pollAfter [83] true] [pollAfter [] false] (pollAfter [83] true) [] rfl
      (by decide) rfl (by decide +kernel)
    exact absurd (hdetects.2 [] List.nil_prefix) (by decide +kernel)
  · intro h
    have hgoes := h (engagedWith 341) (by decide) rfl [pollAfter [28495, 55068] false] []
      (pollAfter [28495, 55068] false) [] rfl (by decide +kernel)
    exact absurd (by decide +kernel) hgoes

end FeedToBondtech
end MmuFirmware
