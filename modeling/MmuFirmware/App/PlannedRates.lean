import MmuFirmware.App.Completion
import MmuFirmware.App.Writes
import MmuFirmware.Logic.PlannedRates
import MmuFirmware.Modules.Trapezoid

/-!
Every move is planned at a rate the step timer can follow, in every run in which no register of a
speed is written faster than that.
-/
namespace MmuFirmware

/-- The axis a register keeps a speed of. -/
def feedrateAxis (address : UInt8) : Option Axis :=
  if address = 0x0d ∨ address = 0x11 ∨ address = 0x14 then some .pulley
  else if address = 0x12 ∨ address = 0x15 then some .selector
  else if address = 0x13 ∨ address = 0x16 then some .idler
  else none

/-- Written to the register of a speed, the value is one the step timer can follow. -/
def RequestMsg.KeepsPace (rq : RequestMsg) : Prop :=
  ∀ axis ∈ feedrateAxis rq.value, rq.value2 ≤ axis.topSpeed

instance (rq : RequestMsg) : Decidable rq.KeepsPace :=
  inferInstanceAs (Decidable (∀ axis ∈ feedrateAxis rq.value, rq.value2 ≤ axis.topSpeed))

namespace Modules

variable {m m' : Modules}

theorem Paced.goesOn (h : m.Paced) (hm : m.GoesOn m') : m'.Paced := by
  cases hm with
  | interrupt i =>
      exact h.congr rfl (AxisData.topRate_tick _ _) (AxisData.topRate_tick _ _)
        (AxisData.topRate_tick _ _)
  | stepMovables findaPin =>
      exact ⟨h.feedrates, Idler.paced_step h.feedrates h.idler,
        Selector.paced_step h.feedrates h.selector _ _, Pulley.paced_step h.pulley⟩
  | killMotors =>
      exact h.congr rfl (AxisData.topRate_disable _) (AxisData.topRate_disable _)
        (AxisData.topRate_disable _)
  | stepInputs | clearQueueFull | inputs | erase => exact h.congr rfl rfl rfl rfl

theorem Paced.moveIdlerTo (h : m.Paced) (d : UInt16) : (m.moveIdlerTo d).Paced := by
  rw [Modules.moveIdlerTo]
  split
  · exact Paced.durable.idlerDisengage h
  · exact Paced.durable.idlerEngage h trivial

theorem Paced.writeSpeed (h : m.Paced) {address : UInt8} (haddress : address ∈ feedrateRegisters)
    {value : UInt16} (hspeed : ∀ axis ∈ feedrateAxis address, value ≤ axis.topSpeed) :
    (writeRegister address value m).2.Paced := by
  simp only [feedrateRegisters, List.mem_cons, List.not_mem_nil, or_false] at haddress
  rcases haddress with rfl | rfl | rfl | rfl | rfl | rfl | rfl
  · exact h.withSpeeds { h.feedrates with pulleyUnload := hspeed .pulley rfl }
  · exact h.withSpeeds { h.feedrates with pulleyLoad := hspeed .pulley rfl }
  · exact h.withSpeeds { h.feedrates with selector := hspeed .selector rfl }
  · exact h.withSpeeds { h.feedrates with idler := hspeed .idler rfl }
  · exact h.withSpeeds { h.feedrates with pulleySlow := hspeed .pulley rfl }
  · exact h.withSpeeds { h.feedrates with selectorHoming := hspeed .selector rfl }
  · exact h.withSpeeds { h.feedrates with idlerHoming := hspeed .idler rfl }

theorem Paced.write (h : m.Paced) {rq : RequestMsg} (hpace : rq.KeepsPace) :
    (writeRegister rq.value rq.value2 m).2.Paced := by
  refine Paced.durable.untuned.writeRegister h rq.value rq.value2 (fun _ => ?_) (fun _ => ?_)
    (fun _ => h.moveIdlerTo rq.value2) fun haddress => h.writeSpeed haddress hpace
  · exact h.congr rfl rfl rfl rfl
  · exact Paced.durable.selectorMoveToSlot h trivial

end Modules

namespace World

/-- The step timer can follow the speeds and the planned moves, and the speed a cut has saved. -/
structure Paced (w : World) : Prop where
  modules : w.modules.Paced
  saved : ∀ id : CommandId, id.KeepsPace (w.commands.get id).command

variable {w : World}

theorem Paced.panic (h : w.Paced) (ec : ErrorCode) : (w.panic ec).Paced := by
  refine ⟨h.modules.congr rfl rfl rfl rfl, fun id => ?_⟩
  obtain ⟨-, hdata, -⟩ := panic_get (w := w) ec id
  exact (h.saved id).congr hdata

theorem Paced.resetAs (h : w.Paced) (id : CommandId) (param : UInt8) :
    (w.resetAs id param).Paced := by
  refine ⟨CommandId.paced_reset h.modules _ param, fun id' => ?_⟩
  by_cases hid : id' = id
  · subst hid
    rw [get_resetAs_self]
    exact (h.saved id').reset param
  · rw [get_resetAs_of_ne _ hid]
    exact h.saved id'

theorem Paced.stepAs (h : w.Paced) : (w.stepAs w.currentCommand).Paced := by
  obtain ⟨hsaved, hmodules⟩ := Running.paced_step (r := w.runningAs w.currentCommand)
    (h.saved w.currentCommand) h.modules
  refine ⟨hmodules, fun id => ?_⟩
  by_cases hid : id = w.currentCommand
  · subst hid
    rw [World.stepAs]
    dsimp only
    rw [Commands.get_set_self]
    exact hsaved
  · rw [get_stepAs_of_ne _ hid]
    exact h.saved id

theorem upholds_paced :
    Upholds (fun _ => Paced) (fun _ => True) (fun _ rq => rq.KeepsPace) (fun _ => True) where
  goesOn h hm := ⟨h.modules.goesOn hm, h.saved⟩
  panic ec _ h := h.panic ec
  recast h hmodules hcommands := ⟨hmodules.symm ▸ h.modules, hcommands.symm ▸ h.saved⟩
  start {w w' s} h _ _ _ _ hmodules hcommands _ := by
    obtain ⟨userInput, lastCommandProcessedMs, hmodules⟩ := hmodules
    have hw' : w'.Paced := by
      refine ⟨?_, ?_⟩
      · rw [hmodules]
        exact h.modules.congr rfl rfl rfl rfl
      · rw [hcommands]
        exact h.saved
    exact hw'.resetAs s.command s.param
  write h hpace := ⟨h.modules.write hpace, h.saved⟩
  step {w} h _ :=
    w.stepCommand_of_stepAs (fun h hm => ⟨h.modules.goesOn hm, h.saved⟩)
      (fun ec _ h => h.panic ec) h.stepAs

end World

namespace BootInput

variable (b : BootInput)

theorem paced_testedAxis {a : AxisData} (h : a.Paced) (registers : TMCRegisters) :
    (testedAxis a registers).Paced :=
  h.congr (AxisData.topRate_initAxis _)

theorem paced_modules : b.modules.Paced where
  feedrates := Feedrates.inRange_init b.storage
  idler := paced_testedAxis (Nat.zero_le _) b.idler
  selector := paced_testedAxis (Nat.zero_le _) b.selector
  pulley := paced_testedAxis (Nat.zero_le _) b.pulley

theorem paced_startUp : b.startUp.2.Paced := by
  rw [startUp]
  dsimp only
  split
  · exact b.paced_modules
  · have hreset : (StartUp.reset { data := () } b.modules).2.2.Paced :=
      StartUp.holds_reset (D := Modules.Paced.durable) b.paced_modules trivial _
    have hidler := hreset.withIdler (Idler.paced_init hreset.feedrates hreset.idler)
    have hselector := hidler.withSelector (Selector.paced_init hidler.selector
      (StartUp.reset { data := () } b.modules).2.2.globals
      (StartUp.reset { data := () } b.modules).2.2.finda.pressed)
    split
    · exact hselector.congr rfl rfl rfl rfl
    · exact hselector

theorem paced_world : b.world.Paced := by
  refine ⟨?_, fun id => ?_⟩
  · rw [world, World.processReset]
    dsimp only
    split
    · exact b.paced_startUp.congr rfl rfl rfl rfl
    · exact b.paced_startUp
  · rw [world, World.processReset]
    cases id with
    | cutFilament => dsimp only; split <;> exact (by decide : (0 : UInt16) ≤ 200)
    | startUp | noCommand | ejectFilament | home | loadFilament | moveSelector | setMode
    | toolChange | unloadFilament => trivial

end BootInput

/-- As long as no register of a speed is written faster than the step timer can follow, every move
handed to the planner has a rate it can follow. The square of the rate of such a move fits a word,
and the rates of its block keep their values in half of one. -/
theorem planned_rates_in_range (b : BootInput) (inputs : List LoopInput)
    (hwrites : ∀ r ∈ b.reports inputs, ∀ rq, r.request = some rq → rq.code = .write →
      rq.KeepsPace) (axis : Axis) :
    ((b.run inputs).modules.axisData axis).topRate ≤ Config.maxStepFrequency.toNat ∧
      ∀ (pg : PulseGen) (target feedRate endRate : BitVec 32),
        feedRate.toNat ≤ ((b.run inputs).modules.axisData axis).topRate →
          (pg.planBlock PulseGen.floorSqrt target feedRate endRate).FitsWords := by
  have hrun := World.upholds_paced.run b.paced_world inputs fun r hr =>
    ⟨fun _ _ => trivial, hwrites r hr, trivial⟩
  have htop : ((b.run inputs).modules.axisData axis).Paced := by
    cases axis with
    | pulley => exact hrun.modules.pulley
    | selector => exact hrun.modules.selector
    | idler => exact hrun.modules.idler
  exact ⟨htop, fun pg _ _ _ hfeed => pg.fitsWords_planBlock (hfeed.trans htop)⟩

/-- The selector homes and parks as fast as the step timer allows. -/
theorem planned_rates_in_range_fastest :
    let inputs := (idleInput false).withWrite 0x12 200 :: untilParked
    ((({} : BootInput).run inputs).modules.axisData .selector).topRate = 40000 ∧
      (({ maxJerk := 200, acceleration := 40000 } : PulseGen).planBlock PulseGen.floorSqrt 1000
        40000 0).FitsWords := by
  intro inputs
  have htop : ((({} : BootInput).run inputs).modules.axisData .selector).topRate = 40000 := by
    decide +kernel
  have hwrites : ∀ r ∈ ({} : BootInput).reports inputs, ∀ rq, r.request = some rq →
      rq.code = .write → rq.KeepsPace := by
    refine requests_of_all ?_
    decide +kernel
  refine ⟨htop, (planned_rates_in_range {} inputs hwrites .selector).2 _ 1000 40000 0 ?_⟩
  rw [htop]
  decide

/-- The registers of the speeds take any value. -/
theorem planned_rate_beyond_timer :
    ¬ ∀ (b : BootInput) (inputs : List LoopInput),
      (∀ r ∈ b.reports inputs, ∀ rq, r.request = some rq → rq.code = .write →
        rq.value ∈ feedrateRegisters) →
      ∀ axis, ((b.run inputs).modules.axisData axis).topRate ≤ Config.maxStepFrequency.toNat := by
  intro h
  have htop := h {} ((idleInput false).withWrite 0x12 0xffff :: untilParked)
    (requests_of_all (by decide +kernel)) .selector
  exact absurd htop (by decide +kernel)

end MmuFirmware
