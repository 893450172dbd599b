import Mathlib.Logic.Function.Basic
import MmuFirmware.App.Runs
import MmuFirmware.Lib.ReadBack
import MmuFirmware.Logic.Settings

/-!
The registers of the settings are a store: a read of one is answered with what was last written
to it, as far as the register can show it, whatever the firmware was asked and did in between.
The accelerations are left out, since they are kept in rounded steps.
-/
namespace MmuFirmware

inductive Setting where
  | fsensorToNozzle | fsensorUnloadCheck
  | pulleyUnloadFeedrate | pulleyLoadFeedrate | pulleySlowFeedrate
  | idlerFeedrate | selectorHomingFeedrate | idlerHomingFeedrate
  | sgThrs (axis : Axis)
  | cutIRunCurrent
  | iRun (axis : Axis)
  | bowdenLength | cutLength
  deriving DecidableEq, Repr

namespace Setting

/-- The setting behind a register, if there is one. -/
def ofRegister : Nat → Option Setting
  | 0x0b => some fsensorToNozzle
  | 0x0c => some fsensorUnloadCheck
  | 0x0d => some pulleyUnloadFeedrate
  | 0x11 => some pulleyLoadFeedrate
  | 0x13 => some idlerFeedrate
  | 0x14 => some pulleySlowFeedrate
  | 0x15 => some selectorHomingFeedrate
  | 0x16 => some idlerHomingFeedrate
  | 0x17 => some (sgThrs .pulley)
  | 0x18 => some (sgThrs .selector)
  | 0x19 => some (sgThrs .idler)
  | 0x1d => some cutIRunCurrent
  | 0x1e => some (iRun .pulley)
  | 0x1f => some (iRun .selector)
  | 0x20 => some (iRun .idler)
  | 0x22 => some bowdenLength
  | 0x23 => some cutLength
  | _ => none

def defaultSgThrs : Axis → UInt8
  | .pulley => 8
  | .selector => 3
  | .idler => 7

/-- An erased byte stands for the default. -/
def shownSgThrs (axis : Axis) (sgthrs : UInt8) : UInt16 :=
  (if sgthrs = 0xff then defaultSgThrs axis else sgthrs).toUInt16

def shownBowdenLength (mm : UInt16) : UInt16 :=
  if PermanentStorage.validBowdenLen mm then mm else Config.defaultBowdenLength

/-- What a register shows of a value written to it. -/
def shown : Setting → UInt16 → UInt16
  | pulleyUnloadFeedrate, d | pulleyLoadFeedrate, d | pulleySlowFeedrate, d
  | idlerFeedrate, d | selectorHomingFeedrate, d | idlerHomingFeedrate, d => d
  | fsensorToNozzle, d | fsensorUnloadCheck, d | cutIRunCurrent, d | iRun _, d
  | cutLength, d => d.toUInt8.toUInt16
  | sgThrs axis, d => shownSgThrs axis d.toUInt8
  | bowdenLength, d => shownBowdenLength d

def get : Setting → Settings → UInt16
  | fsensorToNozzle, s => s.globals.fsensorToNozzleMm.toUInt16
  | fsensorUnloadCheck, s => s.globals.fsensorUnloadCheckMm.toUInt16
  | pulleyUnloadFeedrate, s => s.globals.pulleyUnloadFeedrate
  | pulleyLoadFeedrate, s => s.globals.pulleyLoadFeedrate
  | pulleySlowFeedrate, s => s.globals.pulleySlowFeedrate
  | idlerFeedrate, s => s.globals.idlerFeedrate
  | selectorHomingFeedrate, s => s.globals.selectorHomingFeedrate
  | idlerHomingFeedrate, s => s.globals.idlerHomingFeedrate
  | sgThrs axis, s => shownSgThrs axis (s.globals.sgThrs axis)
  | cutIRunCurrent, s => s.globals.cutIRunCurrent.toUInt16
  | iRun axis, s => (s.iRun axis).toUInt16
  | bowdenLength, s => shownBowdenLength s.globals.bowdenLengthMM
  | cutLength, s => s.globals.cutLengthMm.toUInt16

def put : Setting → UInt16 → Settings → Settings
  | fsensorToNozzle, d, s =>
      { s with globals := { s.globals with fsensorToNozzleMm := d.toUInt8 } }
  | fsensorUnloadCheck, d, s =>
      { s with globals := { s.globals with fsensorUnloadCheckMm := d.toUInt8 } }
  | pulleyUnloadFeedrate, d, s =>
      { s with globals := { s.globals with pulleyUnloadFeedrate := d } }
  | pulleyLoadFeedrate, d, s => { s with globals := { s.globals with pulleyLoadFeedrate := d } }
  | pulleySlowFeedrate, d, s => { s with globals := { s.globals with pulleySlowFeedrate := d } }
  | idlerFeedrate, d, s => { s with globals := { s.globals with idlerFeedrate := d } }
  | selectorHomingFeedrate, d, s =>
      { s with globals := { s.globals with selectorHomingFeedrate := d } }
  | idlerHomingFeedrate, d, s => { s with globals := { s.globals with idlerHomingFeedrate := d } }
  | sgThrs axis, d, s =>
      { s with
        globals :=
          { s.globals with sgThrs := Function.update s.globals.sgThrs axis d.toUInt8 } }
  | cutIRunCurrent, d, s => { s with globals := { s.globals with cutIRunCurrent := d.toUInt8 } }
  | iRun axis, d, s => { s with iRun := Function.update s.iRun axis d.toUInt8 }
  | bowdenLength, d, s => { s with globals := { s.globals with bowdenLengthMM := d } }
  | cutLength, d, s => { s with globals := { s.globals with cutLengthMm := d.toUInt8 } }

theorem independent : Cells.Independent get put shown where
  same k v s := by
    cases k with
    | sgThrs axis => simp [get, put, shown]
    | iRun axis => simp [get, put, shown]
    | _ => rfl
  other k k' v s hne := by
    cases k' with
    | sgThrs axis' =>
        cases k with
        | sgThrs axis =>
            have haxis : axis ≠ axis' := fun heq => hne (congrArg sgThrs heq)
            simp [get, put, haxis]
        | _ => rfl
    | iRun axis' =>
        cases k with
        | iRun axis =>
            have haxis : axis ≠ axis' := fun heq => hne (congrArg iRun heq)
            simp [get, put, haxis]
        | _ => rfl
    | _ =>
        cases k with
        | _ => first | rfl | exact absurd rfl hne

end Setting

namespace RegisterRec

/-- The register keeps the setting, or none. -/
structure Backs (r : RegisterRec) (setting : Option Setting) : Prop where
  reads : ∀ k ∈ setting, ∀ v, r.readFunc v = k.get v.modules.settings
  writes : ∀ write, r.writeFunc = some write → ∀ m d,
    (write m d).settings = setting.elim m.settings fun k => k.put d m.settings
  writable : setting.isSome → r.writeFunc.isSome

theorem backs_readOnly (readFunc : RegisterView → UInt16) : Backs { readFunc } none :=
  ⟨nofun, nofun, nofun⟩

theorem backs_other {readFunc : RegisterView → UInt16} {write : Modules → UInt16 → Modules}
    (hwrite : ∀ m d, (write m d).settings = m.settings) :
    Backs { readFunc, writeFunc := some write } none := by
  refine ⟨nofun, ?_, nofun⟩
  rintro _ ⟨⟩
  exact hwrite

theorem backs_ofGlobals {get : Globals → UInt16} {set : Globals → UInt16 → Globals} (k : Setting)
    (hget : ∀ m : Modules, get m.globals = k.get m.settings)
    (hset : ∀ (m : Modules) d,
      Modules.settings { m with globals := set m.globals d } = k.put d m.settings) :
    (ofGlobals get set).Backs (some k) := by
  refine ⟨?_, ?_, fun _ => rfl⟩
  · rintro _ ⟨⟩ v
    exact hget v.modules
  · rintro _ ⟨⟩
    exact hset

theorem settings_setStallGuardThreshold (g : Globals) (axis : Axis) (sgthrs : UInt8) :
    (g.setStallGuardThreshold axis sgthrs).settings =
      { g.settings with sgThrs := Function.update g.settings.sgThrs axis sgthrs } := by
  have hsgThrs : (g.setStallGuardThreshold axis sgthrs).settings.sgThrs =
      Function.update g.settings.sgThrs axis sgthrs := by
    funext other
    cases axis <;> cases other <;> rfl
  rw [← hsgThrs]
  cases axis <;> rfl

theorem backs_stallGuardThreshold (axis : Axis) :
    (stallGuardThreshold axis).Backs (some (.sgThrs axis)) := by
  apply backs_ofGlobals
  · intro m
    cases axis <;> rfl
  · intro m d
    exact congrArg (Settings.mk · m.settings.iRun)
      (settings_setStallGuardThreshold m.globals axis d.toUInt8)

theorem backs_acceleration (axis : Axis) (scale : AxisScale) :
    (acceleration axis scale).Backs none := by
  apply backs_other
  intro m d
  apply Modules.settings_ext
  · cases axis <;> rfl
  · intro other
    cases axis <;> cases other <;> rfl

theorem backs_iRun (axis : Axis) : (iRun axis).Backs (some (.iRun axis)) := by
  refine ⟨?_, ?_, fun _ => rfl⟩
  · rintro _ ⟨⟩ v
    rfl
  · rintro _ ⟨⟩ m d
    have hiRun (m' : Modules) (hglobals : m'.globals = m.globals)
        (haxes : ∀ other, (m'.axisData other).iRun =
          Function.update m.settings.iRun axis d.toUInt8 other) :
        m'.settings =
          { m.settings with iRun := Function.update m.settings.iRun axis d.toUInt8 } := by
      rw [Modules.settings, hglobals]
      exact congrArg (Settings.mk _) (funext haxes)
    apply hiRun
    · cases axis <;> rfl
    · intro other
      cases axis <;> cases other <;> rfl

/-- Each register of the table keeps its setting. -/
theorem backs_registers : ∀ p ∈ registers.zipIdx, p.1.Backs (Setting.ofRegister p.2) := by
  simp only [registers, List.zipIdx_cons, List.zipIdx_nil, List.forall_mem_cons,
    List.not_mem_nil, false_implies, implies_true, and_true]
  refine ⟨backs_readOnly _, backs_readOnly _, backs_readOnly _, backs_readOnly _,
    backs_readOnly _, backs_readOnly _, backs_readOnly _,
    backs_other fun m _ => m.settings_setFilamentLoaded _ _, backs_readOnly _,
    backs_other fun _ _ => rfl, backs_readOnly _,
    backs_ofGlobals _ (fun _ => rfl) fun _ _ => rfl,
    backs_ofGlobals _ (fun _ => rfl) fun _ _ => rfl,
    backs_ofGlobals _ (fun _ => rfl) fun _ _ => rfl,
    backs_acceleration _ _, backs_acceleration _ _, backs_acceleration _ _,
    backs_ofGlobals _ (fun _ => rfl) fun _ _ => rfl, backs_other fun _ _ => rfl,
    backs_ofGlobals _ (fun _ => rfl) fun _ _ => rfl,
    backs_ofGlobals _ (fun _ => rfl) fun _ _ => rfl,
    backs_ofGlobals _ (fun _ => rfl) fun _ _ => rfl,
    backs_ofGlobals _ (fun _ => rfl) fun _ _ => rfl,
    backs_stallGuardThreshold _, backs_stallGuardThreshold _, backs_stallGuardThreshold _,
    backs_readOnly _, backs_other fun m _ => m.settings_selectorMoveToSlot _,
    backs_other fun m d => ?_,
    backs_ofGlobals _ (fun _ => rfl) fun _ _ => rfl, backs_iRun _, backs_iRun _, backs_iRun _,
    backs_readOnly _, backs_ofGlobals _ (fun _ => rfl) fun _ _ => rfl,
    backs_ofGlobals _ (fun _ => rfl) fun _ _ => rfl⟩
  split
  · exact m.settings_idlerDisengage
  · exact m.settings_idlerEngage _

end RegisterRec

theorem Setting.lt_of_ofRegister {n : Nat} {k : Setting} (h : ofRegister n = some k) :
    n < registers.length := by
  have hlength : registers.length = 36 := rfl
  unfold ofRegister at h
  split at h <;> first | omega | cases h

/-- The register of a setting shows it. -/
theorem readRegister_setting {address : UInt8} {k : Setting}
    (h : Setting.ofRegister address.toNat = some k) (v : RegisterView) :
    readRegister address v = some (k.get v.modules.settings) := by
  obtain ⟨r, hr⟩ : ∃ r, registers[address.toNat]? = some r :=
    ⟨_, List.getElem?_eq_getElem (Setting.lt_of_ofRegister h)⟩
  have hmem : (r, address.toNat) ∈ registers.zipIdx := List.mem_zipIdx_iff_getElem?.mpr hr
  have hbacks := RegisterRec.backs_registers _ hmem
  rw [readRegister, hr]
  exact congrArg some (hbacks.reads k h v)

/-- A write changes the setting behind the register, and no other. -/
theorem settings_writeRegister (address : UInt8) (value : UInt16) (m : Modules) :
    (writeRegister address value m).2.settings =
      (Setting.ofRegister address.toNat).elim m.settings fun k => k.put value m.settings := by
  rw [writeRegister]
  cases hr : registers[address.toNat]? with
  | none =>
      have hnone : Setting.ofRegister address.toNat = none := by
        rw [Option.eq_none_iff_forall_ne_some]
        intro k hk
        exact absurd (Setting.lt_of_ofRegister hk)
          (Nat.not_lt.mpr (List.getElem?_eq_none_iff.mp hr))
      rw [hnone]
      rfl
  | some r =>
      have hmem : (r, address.toNat) ∈ registers.zipIdx := List.mem_zipIdx_iff_getElem?.mpr hr
      have hbacks := RegisterRec.backs_registers _ hmem
      cases hwrite : r.writeFunc with
      | some write =>
          rw [Option.bind_some, hwrite]
          exact hbacks.writes write hwrite m value
      | none =>
          have hnone : Setting.ofRegister address.toNat = none := by
            rw [← Option.not_isSome_iff_eq_none]
            intro hsome
            have hwritable := hbacks.writable hsome
            rw [hwrite] at hwritable
            cases hwritable
          rw [Option.bind_some, hwrite, hnone]
          rfl

/-- What a request writes to a setting. -/
def RequestMsg.settingWrite (rq : RequestMsg) : Option (Setting × UInt16) :=
  if rq.code = .write then (Setting.ofRegister rq.value.toNat).map fun k => (k, rq.value2) else none

def LoopReport.settingWrite (r : LoopReport) : Option (Setting × UInt16) :=
  r.request.bind RequestMsg.settingWrite

namespace World

variable {w : World}

theorem settings_deliverPanic (w : World) :
    w.deliverPanic.modules.settings = w.modules.settings := by
  rw [World.deliverPanic]
  split
  · exact w.modules.settings_clearQueueFull
  · rfl

theorem settings_resetCommand (w : World) (id : CommandId) (param : UInt8) :
    (w.resetCommand id param).2.modules.settings = w.modules.settings := by
  rw [World.resetCommand, settings_deliverPanic]
  exact id.settings_reset _ _ _

theorem settings_tick (m : Modules) (i : Interrupts) : (m.interrupt i).settings = m.settings :=
  Modules.settings_congr rfl ((AxisData.Tuned.refl _).tick i.pulley)
    ((AxisData.Tuned.refl _).tick i.selector) ((AxisData.Tuned.refl _).tick i.idler)

theorem settings_stepMovables (m : Modules) (findaPin : Bool) :
    (m.stepMovables findaPin).settings = m.settings :=
  Modules.settings_congr rfl (Pulley.tuned_step _) (Selector.tuned_step _ _ _ _)
    (Idler.tuned_step _ _)

theorem settings_killMotors (m : Modules) : m.killMotors.settings = m.settings :=
  Modules.settings_congr rfl (AxisData.Tuned.disable ⟨rfl, rfl, id⟩)
    (AxisData.Tuned.disable ⟨rfl, rfl, id⟩) (AxisData.Tuned.disable ⟨rfl, rfl, id⟩)

theorem settings_serves {w' : World} {start : Option Start} {rq : RequestMsg}
    (hserves : w.Serves rq w' start) (hwrite : rq.code ≠ .write) (hreset : rq.code ≠ .reset) :
    w'.modules.settings = w.modules.settings := by
  cases hserves with
  | quiet => rfl
  | reset hcode => exact absurd hcode hreset
  | write hcode => exact absurd hcode hwrite
  | start _ _ _ hw' =>
      subst hw'
      exact settings_resetCommand _ _ _

theorem settings_checksManually {w' : World} {start : Option Start}
    (hchecks : w.ChecksManually w' start) : w'.modules.settings = w.modules.settings := by
  cases hchecks with
  | quiet => rfl
  | start hw' =>
      subst hw'
      exact settings_resetCommand _ _ _

theorem stagesPreserve_settings (s : Settings) :
    StagesPreserve (fun rq => rq.code ≠ .write ∧ rq.code ≠ .reset)
      fun w => w.modules.settings = s where
  interrupt w i h := (settings_tick _ i).trans h
  stepModules w i h := by
    rw [stepModules]
    refine (settings_deliverPanic _).trans (Eq.trans ?_ h)
    dsimp only
    split
    · exact settings_stepMovables _ _
    · rfl
  runtimeHWChecks w vccADC h := by
    rw [runtimeHWChecks]
    split
    · exact (settings_killMotors w.modules).trans h
    · exact h
  checkManualOperation w h := (settings_checksManually w.checksManually).trans h
  receive w bytes h := h
  checkMsgs w h := h
  processRequestMsg w h _ hcode :=
    (settings_serves (serves w.checkMsgs.2 _) hcode.1 hcode.2).trans h
  stepCommand w h := by
    rw [stepCommand]
    refine (settings_deliverPanic _).trans (Eq.trans ?_ h)
    exact Running.settings_step _ _

theorem settings_readMessages (w : World) (i : LoopInput) :
    (w.readMessages i).2.modules.settings = w.modules.settings :=
  (stagesPreserve_settings w.modules.settings).checkMsgs _
    ((stagesPreserve_settings w.modules.settings).received rfl i)

theorem serve_of_request {i : LoopInput} {rq : RequestMsg}
    (h : (w.report i).request = some rq) :
    w.serve i = (w.readMessages i).2.processRequestMsg rq := by
  rw [report] at h
  rw [World.serve]
  split at h
  · next hcompleted =>
      cases h
      exact if_pos hcompleted
  · cases h

theorem settings_write {rq : RequestMsg} (hcode : rq.code = .write) :
    (w.processRequestMsg rq).world.modules.settings =
      (Setting.ofRegister rq.value.toNat).elim w.modules.settings
        fun k => k.put rq.value2 w.modules.settings := by
  obtain ⟨code, value, value2, crc8⟩ := rq
  subst hcode
  exact (settings_deliverPanic _).trans (settings_writeRegister value value2 w.modules)

theorem line_read {rq : RequestMsg} (hcode : rq.code = .read) :
    (w.processRequestMsg rq).line = some (w.reportReadRegister rq) := by
  obtain ⟨code, value, value2, crc8⟩ := rq
  subst hcode
  rfl

theorem boardReset_reset {rq : RequestMsg} (hcode : rq.code = .reset) :
    (w.processRequestMsg rq).world.boardReset = true := by
  obtain ⟨code, value, value2, crc8⟩ := rq
  subst hcode
  show (w.processReset value).boardReset = true
  rw [processReset]
  split <;> rfl

/-- An iteration that does not reset the board changes the setting its request writes, and no
other. -/
theorem settings_loop {i : LoopInput} (hgoes : w.boardReset = false)
    (hafter : (w.loop i).1.boardReset = false) :
    (w.loop i).1.modules.settings =
      (w.report i).settingWrite.elim w.modules.settings
        fun write => write.1.put write.2 w.modules.settings := by
  by_cases hwrites : ∃ rq, (w.report i).request = some rq ∧ (rq.code = .write ∨ rq.code = .reset)
  · obtain ⟨rq, hrequest, hcode⟩ := hwrites
    have hserve := serve_of_request hrequest
    rw [World.loop, if_neg (by simp [hgoes])] at hafter ⊢
    dsimp only at hafter ⊢
    rcases hcode with hcode | hcode
    · have hwritten := settings_write (w := (w.readMessages i).2) hcode
      rw [← hserve, settings_readMessages] at hwritten
      have hwrite : (w.report i).settingWrite =
          (Setting.ofRegister rq.value.toNat).map fun k => (k, rq.value2) := by
        rw [LoopReport.settingWrite, hrequest, Option.bind_some, RequestMsg.settingWrite,
          if_pos hcode]
      have hstages := stagesPreserve_settings (w.serve i).world.modules.settings
      rw [hwrite, Option.elim_map]
      refine Eq.trans ?_ hwritten
      split
      · exact hstages.interrupt _ _ rfl
      · exact hstages.stepCommand _ (hstages.interrupt _ _ rfl)
    · have hreset : (w.beforeCommand i).boardReset = true :=
        (congrArg (fun s => s.world.boardReset) hserve).trans (boardReset_reset hcode)
      rw [if_pos hreset, hreset] at hafter
      cases hafter
  · have hnone : (w.report i).settingWrite = none := by
      rw [LoopReport.settingWrite, Option.bind_eq_none_iff]
      intro rq hrequest
      exact if_neg fun hcode => hwrites ⟨rq, hrequest, .inl hcode⟩
    rw [hnone]
    refine (stagesPreserve_settings w.modules.settings).loop rfl i fun rq hrequest => ⟨?_, ?_⟩
    · exact fun hcode => hwrites ⟨rq, hrequest, .inl hcode⟩
    · exact fun hcode => hwrites ⟨rq, hrequest, .inr hcode⟩

theorem boardReset_run (h : w.boardReset = true) (inputs : List LoopInput) :
    (w.run inputs).boardReset = true := by
  induction inputs with
  | nil => exact h
  | cons i inputs ih =>
      rw [World.run, Transducer.run_cons, w.loop_of_boardReset h]
      exact ih

theorem goes_of_run {inputs : List LoopInput} (h : (w.run inputs).boardReset = false) :
    w.boardReset = false := by
  rw [← Bool.not_eq_true]
  exact fun hreset => absurd ((boardReset_run hreset inputs).symm.trans h) (by decide)

/-- A run puts into the settings what its requests write to them. -/
theorem settings_run (inputs : List LoopInput) (hgoes : (w.run inputs).boardReset = false) :
    (w.run inputs).modules.settings =
      Cells.puts Setting.put w.modules.settings
        ((w.reports inputs).filterMap LoopReport.settingWrite) := by
  induction inputs generalizing w with
  | nil => rfl
  | cons i inputs ih =>
      have hhere : w.boardReset = false := goes_of_run hgoes
      have hloop := settings_loop hhere (goes_of_run (w := (w.loop i).1) hgoes)
      have hafter := ih (w := (w.loop i).1) hgoes
      rw [w.reports_of_goes hhere, List.filterMap_cons]
      rw [hloop] at hafter
      cases hwrite : (w.report i).settingWrite with
      | none =>
          rw [hwrite] at hafter
          exact hafter
      | some write =>
          rw [hwrite] at hafter
          exact hafter

end World

namespace BootInput

variable (b : BootInput)

theorem settings_startUp : b.startUp.2.settings = b.modules.settings := by
  rw [startUp]
  split
  · rfl
  · dsimp only
    have hreset := StartUp.settings_reset b.modules { data := () }
    have hidler (m : Modules) : Modules.settings { m with idler := Idler.init m.idler m.globals } =
        m.settings := Modules.settings_idler _ (Idler.tuned_init _ _)
    have hselector (m : Modules) : Modules.settings
        { m with selector := Selector.init m.selector m.globals m.finda.pressed } = m.settings :=
      Modules.settings_selector _ (Selector.tuned_init _ _ _)
    have hall := (hselector _).trans ((hidler _).trans hreset)
    split
    · exact hall
    · exact hall

theorem settings_run (inputs : List LoopInput) (hgoes : (b.run inputs).boardReset = false) :
    (b.run inputs).modules.settings =
      Cells.puts Setting.put b.modules.settings
        ((b.reports inputs).filterMap LoopReport.settingWrite) := by
  have hworld : b.world.modules.settings = b.modules.settings := by
    rw [world]
    split
    · next hrequested =>
        have hreset : b.world.boardReset = true := by
          rw [world, if_pos hrequested, World.processReset, if_pos rfl]
        exact absurd ((World.boardReset_run hreset inputs).symm.trans hgoes) (by decide)
    · exact b.settings_startUp
  rw [← hworld]
  exact World.settings_run inputs hgoes

/-- The read of a setting is answered with what was written to it last, as far as its register
can show that, or with what power-on has found. -/
theorem settings_answered (before : List LoopInput) (i : LoopInput)
    (hgoes : (b.run before).boardReset = false) {rq : RequestMsg}
    (hrequest : ((b.run before).report i).request = some rq) (hread : rq.code = .read)
    {k : Setting} (hsetting : Setting.ofRegister rq.value.toNat = some k) :
    ((b.run before).report i).line =
      some (encodeResponseRead rq true
        ((Cells.lastOf k ((b.reports before).filterMap LoopReport.settingWrite)).elim
          (k.get b.modules.settings) k.shown)) := by
  have hline : ((b.run before).report i).line =
      some (((b.run before).readMessages i).2.reportReadRegister rq) :=
    (congrArg (fun s => s.line) (World.serve_of_request hrequest)).trans (World.line_read hread)
  have hvalue := readRegister_setting hsetting ((b.run before).readMessages i).2.registerView
  have hsettings : ((b.run before).readMessages i).2.registerView.modules.settings =
      Cells.puts Setting.put b.modules.settings
        ((b.reports before).filterMap LoopReport.settingWrite) :=
    (World.settings_readMessages _ i).trans (b.settings_run before hgoes)
  rw [hline, World.reportReadRegister, hvalue, hsettings, Cells.get_puts Setting.independent]
  rfl

/-- The threshold of the pulley is erased, -/
def erasesThreshold : LoopInput where
  rx := encodeWriteRequest 0x17 0xff

/-- and asked for. -/
def asksThreshold : LoopInput where
  rx := encodeRequest (.init .read 0x17)

theorem settings_answered_erased :
    ∃ rq, ((({} : BootInput).run [erasesThreshold]).report asksThreshold).request = some rq ∧
      ((({} : BootInput).run [erasesThreshold]).report asksThreshold).line =
        some (encodeResponseRead rq true 8) := by
  have hrequest : ((({} : BootInput).run [erasesThreshold]).report asksThreshold).request =
      some ((({} : BootInput).run [erasesThreshold]).readMessages
        asksThreshold).2.protocol.requestMsg := by
    decide +kernel
  have hgoes : (({} : BootInput).run [erasesThreshold]).boardReset = false := by decide +kernel
  have hread : ((({} : BootInput).run [erasesThreshold]).readMessages
      asksThreshold).2.protocol.requestMsg.code = .read := by
    decide +kernel
  have hsetting : Setting.ofRegister ((({} : BootInput).run [erasesThreshold]).readMessages
      asksThreshold).2.protocol.requestMsg.value.toNat = some (.sgThrs .pulley) := by
    decide +kernel
  have hlast : Cells.lastOf (Setting.sgThrs .pulley)
      ((({} : BootInput).reports [erasesThreshold]).filterMap LoopReport.settingWrite) =
        some 0xff := by
    decide +kernel
  have hanswer := settings_answered {} [erasesThreshold] asksThreshold hgoes hrequest hread hsetting
  rw [hlast] at hanswer
  exact ⟨_, hrequest, hanswer⟩

end BootInput

end MmuFirmware
