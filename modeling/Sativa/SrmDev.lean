import Sativa.Ledger
import Sativa.Buffer

/-!
A device of the system resource manager of a remote processor.

It has the clocks and regulators of one peripheral that the remote processor uses: the parents of
the clocks and the regulators are enabled when the device is bound and disabled when it is unbound,
and in between the remote processor asks for other settings by messages. The kernel is an oracle
that sees all calls before.
-/

namespace Sativa.Srm

open Sativa Prog

/-! ### Messages -/

def RPROC_SRM_MSG_GETCONFIG : UInt32 := 0x00
def RPROC_SRM_MSG_SETCONFIG : UInt32 := 0x01
def RPROC_SRM_MSG_ERROR : UInt32 := 0xFF

def RPROC_SRM_RSC_CLOCK : UInt32 := 0x00
def RPROC_SRM_RSC_REGU : UInt32 := 0x01

def U32_MAX : UInt32 := 0xFFFFFFFF

/-- The union of `clock_cfg` and `regu_cfg`; the first has no voltages. -/
structure Cfg where
  index : UInt32
  name : Vector UInt8 16
  /-- `rate` of a clock, `enable` of a regulator -/
  value : UInt32
  currVoltageMv : UInt32
  minVoltageMv : UInt32
  maxVoltageMv : UInt32
  deriving DecidableEq

/-- `rpmsg_srm_msg`. -/
structure Msg where
  messageType : UInt32
  deviceId : Vector UInt8 32
  rscType : UInt32
  cfg : Cfg
  deriving DecidableEq

def u32Bytes (v : UInt32) : Bytes :=
  [v.toUInt8, (v >>> 8).toUInt8, (v >>> 16).toUInt8, (v >>> 24).toUInt8]

/-- From `name` to the end of the message. -/
def Cfg.nameBytes (cfg : Cfg) : Bytes :=
  cfg.name.toList ++ u32Bytes cfg.value ++ u32Bytes cfg.currVoltageMv ++
    u32Bytes cfg.minVoltageMv ++ u32Bytes cfg.maxVoltageMv

/-- The string at `cfg->name`, where `past` is what follows the message in memory. -/
def Cfg.nameStr (cfg : Cfg) (past : Bytes) : Bytes := cstr (cfg.nameBytes ++ past)

/-- The string at `device_id`. -/
def Msg.deviceIdStr (msg : Msg) (past : Bytes) : Bytes :=
  cstr (msg.deviceId.toList ++ u32Bytes msg.rscType ++ u32Bytes msg.cfg.index ++
    msg.cfg.nameBytes ++ past)

/-- The same message as an error. -/
def Msg.error (msg : Msg) : Msg := { msg with messageType := RPROC_SRM_MSG_ERROR }

/-- `strscpy`; what is behind the NUL stays. -/
def strscpy (dest : Vector UInt8 16) (src : Bytes) : Vector UInt8 16 :=
  .ofFn fun i => if i.val < (src.take 15).length then (src.take 15).getD i 0
    else if i.val = (src.take 15).length then 0 else dest[i]

/-! ### Devices -/

inductive Kind
  | clock
  | regu
  deriving DecidableEq

/-- `rproc_srm_clk_info` and `rproc_srm_regu_info`; `enabled` is `parent_enabled` of a clock. -/
structure Info where
  index : UInt32
  handle : ℤ
  name : Bytes
  enabled : Bool
  deriving DecidableEq

/-- `rproc_srm_dev`, with the name of its device. -/
structure Dev where
  name : Bytes
  earlyBoot : Bool
  infos : Kind → List Info
  irqs : List ℤ

/-- What is called. A negative answer is an error; one that is not is a handle, for the calls that
get something. -/
inductive KCall
  | kzalloc
  | ofClkGet (i : ℕ)
  | clkPut (clk : ℤ)
  | clkGetParent (clk : ℤ)
  | clkPrepareEnable (clk : ℤ)
  | clkDisableUnprepare (clk : ℤ)
  | clkGetRate (clk : ℤ)
  | clkSetRate (clk : ℤ) (rate : UInt32)
  | devmRegulatorGet (id : Bytes)
  | devmRegulatorPut (regu : ℤ)
  | regulatorIsEnabled (regu : ℤ)
  | regulatorEnable (regu : ℤ)
  | regulatorDisable (regu : ℤ)
  | regulatorSetVoltage (regu : ℤ) (minUv maxUv : ℤ)
  | regulatorGetVoltage (regu : ℤ)
  | platformIrqCount
  | platformGetIrq (i : ℕ)
  | devmRequestIrq (irq : ℤ)
  | devmFreeIrq (irq : ℤ)
  | disableIrq (irq : ℤ)
  | registerNotifier
  | unregisterNotifier
  | rpmsgSend (msg : Msg)
  deriving DecidableEq

abbrev Kernel := List (KCall × ℤ) → KCall → ℤ

abbrev World := Logged KCall Dev

/-- A function that returns `0` returns, and one that returns another value throws it. -/
abbrev DevProg := Prog ℤ World

def EINVAL : ℤ := 22
def ENOMEM : ℤ := 12

def Dev.add (k : Kind) (info : Info) (dev : Dev) : Dev :=
  { dev with infos := Function.update dev.infos k (dev.infos k ++ [info]) }

def Dev.setEnabled (k : Kind) (i : ℕ) (enabled : Bool) (dev : Dev) : Dev :=
  let infos := (dev.infos k).modify i fun info => { info with enabled }
  { dev with infos := Function.update dev.infos k infos }

/-- `list_del` of the first. -/
def Dev.del (k : Kind) (dev : Dev) : Dev :=
  { dev with infos := Function.update dev.infos k (dev.infos k).tail }

section Driver

variable (kernel : Kernel)

/-- `devm_kzalloc`; the answer `0` is that there is no memory. -/
def allocate : DevProg Unit := do
  let p ← call kernel .kzalloc
  .throwIf (p = 0) (-ENOMEM)

/-- `list_for_each_entry`. -/
def forEachEntry (k : Kind) (body : ℕ → Info → DevProg Unit) : DevProg Unit := do
  let w ← .get
  (List.range (w.state.infos k).length).forM fun i => do
    let w ← .get
    match (w.state.infos k)[i]? with
    | none => pure ()
    | some info => body i info

/-! ### Clocks -/

def clocksUnsetup : DevProg Unit := forEachEntry .clock fun i c =>
  .when (c.enabled = true) do
    let parent ← call kernel (.clkGetParent c.handle)
    perform kernel (.clkDisableUnprepare parent)
    .update (Dev.setEnabled .clock i false)

def clocksSetup : DevProg Unit := forEachEntry .clock fun i c =>
  .when (c.enabled = false) do
    let parent ← call kernel (.clkGetParent c.handle)
    let ret ← call kernel (.clkPrepareEnable parent)
    .when (ret ≠ 0) do
      clocksUnsetup kernel
      .fail ret
    .update (Dev.setEnabled .clock i true)

/-- Whether an entry is looked for: by index if that is valid, otherwise by name. -/
def Info.Is (index : UInt32) (name : Bytes) (info : Info) : Prop :=
  if index ≠ U32_MAX then info.index = index else info.name = name

instance (index : UInt32) (name : Bytes) : DecidablePred (Info.Is index name) := fun info =>
  inferInstanceAs (Decidable (if index ≠ U32_MAX then info.index = index else info.name = name))

/-- `clock_find` and `regu_find`, for the string at `cfg->name`; with the position. -/
def find (k : Kind) (dev : Dev) (index : UInt32) (name : Bytes) : Option (Info × ℕ) :=
  (dev.infos k).zipIdx.find? fun (info, _) => decide (info.Is index name)

/-- An `unsigned long` of the kernel. -/
def ulong (answer : ℤ) : UInt32 := .ofInt answer

/-- The entry that the configuration is for. -/
def findOrFail (k : Kind) (cfg : Cfg) (name : Bytes) : DevProg (Info × ℕ) := do
  let w ← .get
  match find k w.state cfg.index name with
  | none => .fail (-EINVAL)
  | some found => pure found

def clockSetCfg (cfg : Cfg) (name : Bytes) : DevProg Unit := do
  let (c, _) ← findOrFail .clock cfg name
  .when (cfg.value ≠ 0) do
    let rate ← call kernel (.clkGetRate c.handle)
    .when (ulong rate ≠ cfg.value) (check kernel (.clkSetRate c.handle cfg.value))

/-- What is told about a clock. -/
def clockCfg (cfg : Cfg) (c : Info) (rate : ℤ) : Cfg :=
  { cfg with name := strscpy cfg.name c.name, index := c.index, value := ulong rate }

def clockGetCfg (cfg : Cfg) (name : Bytes) : DevProg Cfg := do
  let (c, _) ← findOrFail .clock cfg name
  let rate ← call kernel (.clkGetRate c.handle)
  return clockCfg cfg c rate

/-- `clocks_put` and `regus_put`. -/
def put (k : Kind) (release : ℤ → KCall) : DevProg Unit := do
  let w ← .get
  (w.state.infos k).forM fun info => do
    perform kernel (release info.handle)
    .update (Dev.del k)

def clocksPut : DevProg Unit := put kernel .clock .clkPut

/-- What the driver reads of a node of the device tree: the clocks, each with its name in
`clock-names` if it is there, and the names of the properties. -/
structure Node where
  clocks : List (Option CString)
  properties : List CString

def clocksGet (np : Option Node) : DevProg Unit := match np with
  | none => pure ()
  | some np => .rescue (np.clocks.zipIdx.forM fun (name, i) => do
      allocate kernel
      let clk ← call kernel (.ofClkGet i)
      .throwIf (clk < 0) (-ENOMEM)
      .update (Dev.add .clock ⟨.ofNat i, clk, (name.map CString.bytes).getD [], false⟩))
    fun ret => do
      clocksPut kernel
      .fail ret

/-! ### Regulators -/

def regusUnsetup : DevProg Unit := forEachEntry .regu fun i r =>
  .when (r.enabled = true) do
    let ret ← call kernel (.regulatorDisable r.handle)
    .when (ret = 0) (.update (Dev.setEnabled .regu i false))

/-- Whether the hardware is followed, and has the regulator off. -/
def offInHw (r : Info) : DevProg Bool := do
  let w ← .get
  if w.state.earlyBoot then do
    let answer ← call kernel (.regulatorIsEnabled r.handle)
    return answer = 0
  else return false

def regusSetup : DevProg Unit := forEachEntry .regu fun i r =>
  .when (r.enabled = false) do
    let off ← offInHw kernel r
    .when (off = false) do
      let ret ← call kernel (.regulatorEnable r.handle)
      .when (ret ≠ 0) do
        regusUnsetup kernel
        .fail ret
      .update (Dev.setEnabled .regu i true)

/-- A product that is passed as an `int`. -/
def microvolts (millivolts : UInt32) : ℤ := (millivolts * 1000).toInt32.toInt

/-- The regulator is switched if it is not what is asked for. -/
def reguSwitch (r : Info) (i : ℕ) (enable : UInt32) : DevProg Unit :=
  if r.enabled = false ∧ enable ≠ 0 then do
    check kernel (.regulatorEnable r.handle)
    .update (Dev.setEnabled .regu i true)
  else if r.enabled = true ∧ enable = 0 then do
    check kernel (.regulatorDisable r.handle)
    .update (Dev.setEnabled .regu i false)
  else pure ()

def reguSetCfg (cfg : Cfg) (name : Bytes) : DevProg Unit := do
  let (r, i) ← findOrFail .regu cfg name
  reguSwitch kernel r i cfg.value
  .when (cfg.minVoltageMv ≠ 0 ∨ cfg.maxVoltageMv ≠ 0) (check kernel (.regulatorSetVoltage r.handle
    (microvolts cfg.minVoltageMv) (microvolts cfg.maxVoltageMv)))

/-- What is told about a regulator. -/
def reguCfg (cfg : Cfg) (r : Info) (v : ℤ) : Cfg := { cfg with
  name := strscpy cfg.name r.name
  index := r.index
  value := if r.enabled then 1 else 0
  minVoltageMv := 0
  maxVoltageMv := 0
  currVoltageMv := if v < 0 then 0 else .ofInt (v / 1000) }

def reguGetCfg (cfg : Cfg) (name : Bytes) : DevProg Cfg := do
  let (r, _) ← findOrFail .regu cfg name
  let v ← call kernel (.regulatorGetVoltage r.handle)
  return reguCfg cfg r v

def regusPut : DevProg Unit := put kernel .regu .devmRegulatorPut

def regusGet (np : Option Node) : DevProg Unit := match np with
  | none => pure ()
  | some np => .rescue (np.properties.forM fun p =>
      .when (ascii "-supply" <:+: p.bytes ∧ ¬ ascii "-supply" <+: p.bytes) do
        allocate kernel
        let name := p.bytes.take (p.bytes.length - 7)
        let regu ← call kernel (.devmRegulatorGet name)
        .throwIf (regu < 0) (-EINVAL)
        .update fun dev => dev.add .regu ⟨.ofNat (dev.infos .regu).length, regu, name, false⟩)
    fun ret => do
      regusPut kernel
      .fail ret

/-! ### Interrupts -/

def irqsPut : DevProg Unit := do
  let w ← .get
  w.state.irqs.forM fun irq => do
    perform kernel (.devmFreeIrq irq)
    .update fun dev => { dev with irqs := dev.irqs.tail }

/-- The number of interrupts is an `int` that is compared with an `unsigned int`; and an interrupt
`0` ends the loop with the error `0`. -/
def irqsGet (np : Option Node) : DevProg Unit := match np with
  | none => pure ()
  | some _ => do
    let nr ← call kernel .platformIrqCount
    let w ← .get
    .when (nr ≠ 0 ∧ w.state.earlyBoot = false) (.rescue
      ((List.range (UInt32.ofInt nr).toNat).forM fun i => do
        allocate kernel
        let irq ← call kernel (.platformGetIrq i)
        .throwIf (irq ≤ 0) irq
        check kernel (.devmRequestIrq irq)
        perform kernel (.disableIrq irq)
        .update fun dev => { dev with irqs := dev.irqs ++ [irq] })
      fun ret => do
        irqsPut kernel
        .throwIf (ret ≠ 0) ret)

/-! ### Core -/

inductive NotifyResult
  | done
  | stop
  | bad
  deriving DecidableEq

/-- What is answered to a message for this device; `past` is what follows the message in memory, and
`stack` what follows the copy of it. -/
def answer (msg : Msg) (past stack : Bytes) : DevProg Msg :=
  if msg.messageType = RPROC_SRM_MSG_SETCONFIG then
    if msg.rscType = RPROC_SRM_RSC_CLOCK then do
      clockSetCfg kernel msg.cfg (msg.cfg.nameStr past)
      let cfg ← clockGetCfg kernel msg.cfg (msg.cfg.nameStr stack)
      return { msg with cfg }
    else if msg.rscType = RPROC_SRM_RSC_REGU then do
      reguSetCfg kernel msg.cfg (msg.cfg.nameStr past)
      let cfg ← reguGetCfg kernel msg.cfg (msg.cfg.nameStr stack)
      return { msg with cfg }
    else .fail (-EINVAL)
  else if msg.messageType = RPROC_SRM_MSG_GETCONFIG then
    if msg.rscType = RPROC_SRM_RSC_CLOCK then do
      let cfg ← clockGetCfg kernel msg.cfg (msg.cfg.nameStr stack)
      return { msg with cfg }
    else if msg.rscType = RPROC_SRM_RSC_REGU then do
      let cfg ← reguGetCfg kernel msg.cfg (msg.cfg.nameStr stack)
      return { msg with cfg }
    else .fail (-EINVAL)
  else .fail (-EINVAL)

/-- Whether the string is in the name of the device. -/
def Dev.matches (dev : Dev) (deviceId : Bytes) : Bool := decide (deviceId <:+: dev.name)

def notifyCb (msg : Msg) (past stack : Bytes) : Prog Empty World NotifyResult := do
  let w ← .get
  if w.state.matches (msg.deviceIdStr past) then do
    let o ← Prog.rescue (answer kernel msg past stack) fun _ => pure msg.error
    let ret ← .call kernel (.rpmsgSend o)
    return if ret ≠ 0 then .bad else .stop
  else return .done

def devUnbind : DevProg Unit := do
  regusUnsetup kernel
  clocksUnsetup kernel

def devBind : DevProg Unit := do
  clocksSetup kernel
  regusSetup kernel

/-- The label `err_get`. -/
def putAll : DevProg Unit := do
  irqsPut kernel
  regusPut kernel
  clocksPut kernel

/-- `rproc_srm_dev_probe`, up to `component_add`. -/
def devProbe (np : Option Node) : DevProg Unit := do
  allocate kernel
  clocksGet kernel np
  .rescue (do
      regusGet kernel np
      irqsGet kernel np
      let ret ← call kernel .registerNotifier
      .when (ret ≠ 0) do
        perform kernel .unregisterNotifier
        .fail ret)
    fun ret => do
      putAll kernel
      .fail ret

end Driver

end Sativa.Srm
