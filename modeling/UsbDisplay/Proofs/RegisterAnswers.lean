import UsbDisplay.Proofs.AdapterSettings
import UsbDisplay.Proofs.RecordedExchanges

/-!
Register reads on a line to a simulated adapter, whatever went wrong on it before. A read that fails
leaves its request with the adapter, but the next read begins with a request of its own, so an
answer is never that of another read. Mode sets, status queries and descriptions are nothing but
reads and writes in a row (`BenchLine.act_call`), so this is true of the reads in them as well
(`BenchLine.reads_own_register`).
-/

namespace UsbDisplay

open Register Word

/-! ### Accesses -/

/-- One access to a register. -/
inductive Access where
  | read (address : UInt16)
  | write (address : UInt16) (data : Payload)

namespace Access

def isRead : Access → Bool
  | read _ => true
  | write .. => false

/-- The reads of `n` registers from an address on. -/
def reads : (n : Nat) → UInt16 → List Access
  | 0, _ => []
  | n + 1, address => .read address :: reads n (address + 1)

theorem isRead_of_mem_reads {n : Nat} {address : UInt16} {a : Access} (h : a ∈ reads n address) :
    a.isRead := by
  induction n generalizing address with
  | zero => cases h
  | succ n ih =>
    rcases List.mem_cons.1 h with rfl | h
    · rfl
    · exact ih h

variable {σ : Type} [ControlTransport σ]

def perform (timeout : Duration) (s : σ) : Access → σ
  | read address => (Register.read timeout address s).2
  | write address data => (Register.write timeout address data s).2

def performAll (timeout : Duration) (accesses : List Access) (s : σ) : σ :=
  accesses.foldl (perform timeout) s

end Access

open Access

/-- The record of a line makes no difference to accesses. -/
theorem RecordedLine.line_perform {σ : Type} [ControlTransport σ] (timeout : Duration) (a : Access)
    (r : RecordedLine σ) : (a.perform timeout r).line = a.perform timeout r.line := by
  cases a with
  | read address =>
    obtain ⟨made, hread, -⟩ := read_recorded timeout address r
    exact congrArg (·.2.line) hread
  | write address data =>
    obtain ⟨result, hwrite, -⟩ := write_recorded timeout address data r
    exact congrArg (·.2.line) hwrite

theorem RecordedLine.line_performAll {σ : Type} [ControlTransport σ] (timeout : Duration)
    (accesses : List Access) (r : RecordedLine σ) :
    (performAll timeout accesses r).line = performAll timeout accesses r.line := by
  induction accesses generalizing r with
  | nil => rfl
  | cons a rest ih =>
    rw [performAll, List.foldl_cons, ← performAll, ih, r.line_perform]
    rfl

/-- A call on the registers of a device. -/
inductive RegisterCall where
  | access (a : Access)
  | setMode (m : DisplayMode)
  | connectorStatus
  | readEdid (block : UInt8)

/-- The accesses of a call if none of them fails. -/
def RegisterCall.accesses : RegisterCall → List Access
  | access a => [a]
  | setMode m =>
    .write reset zeroPayload :: statusRegisters.map .read ++
      (configureWrites m).map fun w => .write w.1 w.2
  | connectorStatus => [.read connector]
  | readEdid block => reads edidBlockLength (edidBase + block.toUInt16 * 128)

namespace RegisterCall

variable {σ : Type} [ControlTransport σ] (timeout : Duration)

def perform (s : σ) : RegisterCall → σ
  | access a => a.perform timeout s
  | setMode m => (Register.setMode timeout m s).2
  | connectorStatus => (Register.connectorStatus timeout s).2
  | readEdid block => (Register.readEdid timeout block s).2

theorem touchAll_eq (addresses : List UInt16) (s : σ) :
    touchAll timeout addresses s = performAll timeout (addresses.map .read) s := by
  induction addresses generalizing s with
  | nil => rfl
  | cons address rest ih => exact ih _

theorem writeAll_eq (writes : List (UInt16 × Payload)) (s : σ) :
    ∃ performed, performed <+: writes.map (fun w => Access.write w.1 w.2) ∧
      (writeAll timeout writes s).2 = performAll timeout performed s := by
  induction writes generalizing s with
  | nil => exact ⟨[], List.nil_prefix, rfl⟩
  | cons w rest ih =>
    obtain ⟨address, data⟩ := w
    simp only [writeAll]
    split
    next heq => exact ⟨[.write address data], List.cons_prefix_cons.2 ⟨rfl, List.nil_prefix⟩,
        (congrArg Prod.snd heq).symm⟩
    next s' heq =>
      obtain ⟨performed, hbegins, hrest⟩ := ih s'
      refine ⟨.write address data :: performed, List.cons_prefix_cons.2 ⟨rfl, hbegins⟩, ?_⟩
      rw [hrest, performAll, performAll, List.foldl_cons, Access.perform, heq]

theorem readRun_eq (n : Nat) (address : UInt16) (s : σ) :
    ∃ performed, performed <+: reads n address ∧
      (readRun timeout n address s).2 = performAll timeout performed s := by
  induction n generalizing address s with
  | zero => exact ⟨[], List.nil_prefix, rfl⟩
  | succ n ih =>
    rw [readRun]
    split
    next heq => exact ⟨[.read address], List.cons_prefix_cons.2 ⟨rfl, List.nil_prefix⟩,
        (congrArg Prod.snd heq).symm⟩
    next value s' heq =>
      obtain ⟨performed, hbegins, hrest⟩ := ih (address + 1) s'
      refine ⟨.read address :: performed, List.cons_prefix_cons.2 ⟨rfl, hbegins⟩, ?_⟩
      rw [performAll, List.foldl_cons, Access.perform, heq]
      split
      next heq' => exact (congrArg Prod.snd heq').symm.trans hrest
      next heq' => exact (congrArg Prod.snd heq').symm.trans hrest

/-- A call performs its accesses in order, from the first on. -/
theorem perform_eq (call : RegisterCall) (s : σ) :
    ∃ performed, performed <+: call.accesses ∧
      call.perform timeout s = performAll timeout performed s := by
  cases call with
  | access a => exact ⟨[a], List.prefix_refl _, rfl⟩
  | setMode m =>
    rw [perform, Register.setMode]
    split
    next heq => exact ⟨[.write reset zeroPayload], List.cons_prefix_cons.2 ⟨rfl, List.nil_prefix⟩,
        (congrArg Prod.snd heq).symm⟩
    next s' heq =>
      obtain ⟨performed, hbegins, hrest⟩ :=
        writeAll_eq timeout (configureWrites m) (touchAll timeout statusRegisters s')
      refine ⟨.write reset zeroPayload :: statusRegisters.map .read ++ performed,
        (List.prefix_append_right_inj _).2 hbegins, ?_⟩
      rw [hrest, touchAll_eq, performAll, performAll, performAll, List.foldl_append, List.foldl_cons,
        Access.perform, heq]
  | connectorStatus =>
    refine ⟨[.read connector], List.prefix_refl _, ?_⟩
    rw [perform, Register.connectorStatus]
    split
    next heq => exact (congrArg Prod.snd heq).symm
    next heq => exact (congrArg Prod.snd heq).symm
  | readEdid block => exact readRun_eq timeout _ _ s

end RegisterCall

/-! ### Accesses to a simulated adapter -/

namespace Adapter

@[simp] theorem registers_applyWrite (a : Adapter) (address : UInt16) (data : Payload) :
    (a.applyWrite address data).registers = a.registers := by
  rw [applyWrite]
  split <;> rfl

theorem controlLog_applyWrite (a : Adapter) (address : UInt16) (data : Payload) :
    (a.applyWrite address data).controlLog = a.controlLog.push (.write address data) := by
  rw [applyWrite]
  split <;> rfl

theorem registers_controlOut (a : Adapter) (data : List UInt8) :
    (a.controlOut data).2.registers = a.registers := by
  rcases a.controlOut_cases data with ⟨e, h⟩ | ⟨address, -, h⟩ | ⟨address, payload, -, h⟩
  · rw [h]
  · rw [h]
  · rw [h]
    exact a.registers_applyWrite address payload

/-- A request for a register takes the place of one that is still pending. -/
theorem pendingRead_controlOut {a : Adapter} {address : UInt16} {n : Nat}
    (h : (a.controlOut (readPacket address)).1 = .ok n) :
    (a.controlOut (readPacket address)).2.pendingRead = some address := by
  have hcases := a.controlOut_cases (readPacket address)
  rw [parse?_readPacket] at hcases
  rcases hcases with ⟨e, hout⟩ | ⟨_, ⟨⟩, hout⟩ | ⟨_, _, ⟨⟩, -⟩
  · rw [hout] at h
    cases h
  · rw [hout]

theorem registers_controlIn (a : Adapter) (buffer : List UInt8) :
    (a.controlIn buffer).2.2.registers = a.registers := by
  obtain ⟨pendingRead, h⟩ := a.controlIn_after buffer
  rw [h]

/-- An answer that has bytes begins with the value of the register that is pending. -/
theorem headD_controlIn {a : Adapter} {address : UInt16} (hpending : a.pendingRead = some address)
    {buffer filled : List UInt8} {count : Nat} {a' : Adapter}
    (h : a.controlIn buffer = (.ok count, filled, a')) (hcount : count ≠ 0) :
    filled.headD 0 = a.registers address := by
  rw [controlIn] at h
  split at h
  · cases h
  split at h
  · cases h
    exact absurd rfl hcount
  simp only [hpending] at h
  split at h
  · cases h
    exact absurd rfl hcount
  · cases h
    rfl

end Adapter

namespace Tap

variable {timeout : Duration}

theorem registers_send (request : ControlRequest) (data : List UInt8) (t : Tap) :
    (ControlTransport.send request data t).2.adapter.registers = t.adapter.registers :=
  t.adapter.registers_controlOut data

theorem registers_receive (request : ControlRequest) (buffer : List UInt8) (t : Tap) :
    (ControlTransport.receive request buffer t).2.2.adapter.registers = t.adapter.registers := by
  simp only [ControlTransport.receive]
  split
  · rfl
  · exact t.adapter.registers_controlIn buffer

theorem pendingRead_send {request : ControlRequest} {address : UInt16} {n : Nat} {t t' : Tap}
    (h : ControlTransport.send request (readPacket address) t = (.ok n, t')) :
    t'.adapter.pendingRead = some address :=
  (congrArg (·.2.adapter.pendingRead) h).symm.trans
    (Adapter.pendingRead_controlOut (congrArg Prod.fst h))

theorem headD_receive {request : ControlRequest} {buffer filled : List UInt8} {count : Nat}
    {address : UInt16} {t t' : Tap} (hpending : t.adapter.pendingRead = some address)
    (h : ControlTransport.receive request buffer t = (.ok count, filled, t')) (hcount : count ≠ 0) :
    filled.headD 0 = t.adapter.registers address := by
  simp only [ControlTransport.receive] at h
  split at h
  · cases h
  · exact Adapter.headD_controlIn hpending
      (Prod.ext (congrArg (·.1) h) (Prod.ext (congrArg (·.2.1) h) rfl)) hcount

/-- A read that succeeds gives the value of its register, whatever was pending before. -/
theorem eq_of_read {address : UInt16} {value : UInt8} {t : Tap}
    (h : (Register.read timeout address t).1 = .ok value) : value = t.adapter.registers address := by
  have hregisters := t.registers_send (.setReport timeout) (readPacket address)
  simp only [Register.read] at h
  split at h
  · cases h
  next n t' hsend =>
    rw [hsend] at hregisters
    split at h
    · cases h
    next count filled t'' hreceive =>
      split at h
      · cases h
      next hcount =>
        cases h
        rw [headD_receive (pendingRead_send hsend) hreceive hcount, hregisters]

/-- A write that succeeds is written down as one write, and one that fails as none. -/
theorem controlLog_write (address : UInt16) (data : Payload) (t : Tap) :
    (Register.write timeout address data t).2.adapter.controlLog =
      match (Register.write timeout address data t).1 with
      | .ok _ => t.adapter.controlLog.push (.write address data)
      | .error _ => t.adapter.controlLog := by
  simp only [Register.write, ControlTransport.send]
  rcases t.adapter.controlOut_writePacket address data with ⟨n, h⟩ | ⟨e, h⟩
  · rw [h]
    exact t.adapter.controlLog_applyWrite address data
  · rw [h]

theorem registers_perform (a : Access) (t : Tap) :
    (a.perform timeout t).adapter.registers = t.adapter.registers := by
  cases a with
  | read address =>
    exact read_keeps (fun t : Tap => t.adapter.registers) (registers_send _ _)
      (registers_receive _ _) t
  | write address data =>
    have hsend := t.registers_send (.setReport timeout) (writePacket address data)
    rw [perform, Register.write]
    generalize ControlTransport.send (.setReport timeout) (writePacket address data) t = sent at *
    obtain ⟨cause | n, t'⟩ := sent <;> exact hsend

theorem registers_performAll (accesses : List Access) (t : Tap) :
    (performAll timeout accesses t).adapter.registers = t.adapter.registers := by
  induction accesses generalizing t with
  | nil => rfl
  | cons a rest ih => exact (ih _).trans (registers_perform a t)

end Tap

/-! ### Runs -/

/-- A recorded line to a tapped adapter. -/
abbrev BenchLine := RecordedLine Tap

namespace BenchLine

/-- What can happen on a line: calls, and between them the adapter and its faults change. -/
inductive Action where
  | call (c : RegisterCall)
  | setRegister (address : UInt16) (value : UInt8)
  | faults (f : Adapter.Faults)
  /-- Answers begin to fail, or stop failing. -/
  | receiveFault (e : Option TransportError)

def act (timeout : Duration) (l : BenchLine) : Action → BenchLine
  | .call c => c.perform timeout l
  | .setRegister address value => { l with line := l.line.adjust (·.setRegister address value) }
  | .faults f => { l with line := l.line.adjust fun a => { a with faults := f } }
  | .receiveFault e => { l with line := { l.line with receiveFault := e } }

def run (timeout : Duration) (l : BenchLine) (actions : List Action) : BenchLine :=
  actions.foldl (act timeout) l

/-- The value that an action gives to a register. -/
def Action.given? (address : UInt16) : Action → Option UInt8
  | setRegister changed value => if changed = address then some value else none
  | call _ | faults _ | receiveFault _ => none

/-- The value that a register was given last; before that it is zero. -/
def lastGiven (actions : List Action) (address : UInt16) : UInt8 :=
  (actions.filterMap (Action.given? address)).getLastD 0

variable {timeout : Duration} {l : BenchLine}

/-- A call is a run of accesses. -/
theorem act_call (c : RegisterCall) :
    ∃ performed, performed <+: c.accesses ∧
      l.act timeout (.call c) = l.run timeout (performed.map fun a => .call (.access a)) := by
  obtain ⟨performed, hbegins, hperform⟩ := c.perform_eq timeout l
  refine ⟨performed, hbegins, hperform.trans ?_⟩
  rw [run, List.foldl_map]
  rfl

/-- A register has a new value after an action that gives it one, and keeps its value otherwise. -/
theorem registers_act (action : Action) (address : UInt16) :
    (l.act timeout action).line.adapter.registers address =
      (action.given? address).getD (l.line.adapter.registers address) := by
  cases action with
  | call c =>
    obtain ⟨performed, -, hperform⟩ := c.perform_eq timeout l
    rw [act, hperform, RecordedLine.line_performAll, Tap.registers_performAll]
    rfl
  | setRegister changed value =>
    simp only [act, Tap.adjust, Adapter.setRegister, Action.given?, eq_comm (a := address)]
    split <;> rfl
  | faults f => rfl
  | receiveFault e => rfl

theorem registers_run (actions : List Action) (address : UInt16) :
    (l.run timeout actions).line.adapter.registers address =
      (actions.filterMap (Action.given? address)).getLastD (l.line.adapter.registers address) := by
  induction actions generalizing l with
  | nil => rfl
  | cons action rest ih =>
    rw [run, List.foldl_cons, ← run, ih, registers_act]
    cases hgiven : action.given? address with
    | none => rw [List.filterMap_cons_none hgiven, Option.getD_none]
    | some value => rw [List.filterMap_cons_some hgiven, List.getLastD_cons, Option.getD_some]

/-- A read asks for its register high byte first. If it succeeds it gives the value of that register,
whatever came before: other calls, and reads whose answers failed or had no bytes. It fails for want
of bytes exactly if its answer came without one, and with the cause of a failure exactly if one of
its two exchanges failed so. A write that succeeds, low byte of its address first, is written down
as one write. All calls are made of such reads and writes. -/
theorem reads_own_register (timeout : Duration) (actions : List Action) :
    let l := run timeout { line := {} } actions
    (∀ address, ∃ made,
      (read timeout address l).2.exchanges = l.exchanges ++ made ∧
        made.filterMap ControlExchange.packet? =
          [[0xB5, high address, low address, 0, 0, 0, 0, 0]] ∧
        (∀ value, (read timeout address l).1 = .ok value → value = lastGiven actions address) ∧
        ((read timeout address l).1 = .error (.shortRead address) ↔
          ∃ request buffer filled, .received request buffer filled (.ok 0) ∈ made) ∧
        (∀ cause, (read timeout address l).1 = .error (.transport cause) ↔
          ∃ x ∈ made, x.result = .error cause) ∧
        ∀ e, (read timeout address l).1 = .error e →
          e = .shortRead address ∨ ∃ cause, e = .transport cause) ∧
      (∀ address data, ∃ result,
        (write timeout address data l).2.exchanges = l.exchanges ++
            [.sent (.setReport timeout)
              ([0xA6, low address, high address] ++ data.toList ++ [0]) result] ∧
          (write timeout address data l).2.line.adapter.controlLog =
            match (write timeout address data l).1 with
            | .ok _ => l.line.adapter.controlLog.push (.write address data)
            | .error _ => l.line.adapter.controlLog) ∧
      ∀ c : RegisterCall, ∃ performed, performed <+: c.accesses ∧
        act timeout l (.call c) = run timeout l (performed.map fun a => .call (.access a)) := by
  intro l
  refine ⟨fun address => ?_, fun address data => ?_, act_call⟩
  · obtain ⟨made, hread, hreading⟩ := read_recorded timeout address l
    have hresult : (read timeout address l).1 = (read timeout address l.line).1 :=
      congrArg Prod.fst hread
    rw [← hresult] at hreading
    refine ⟨made, congrArg (·.2.exchanges) hread, hreading.packets_eq, fun value hvalue => ?_,
      hreading.eq_shortRead_iff, fun _ => hreading.eq_transport_iff, fun _ => hreading.eq_error⟩
    exact (Tap.eq_of_read (hresult.symm.trans hvalue)).trans (registers_run actions address)
  · obtain ⟨result, hwrite, -⟩ := write_recorded timeout address data l
    refine ⟨result, congrArg (·.2.exchanges) hwrite, ?_⟩
    rw [hwrite]
    exact l.line.controlLog_write address data

/-- The answer of a read fails, and another register is read after it. -/
def unanswered : List Action := [
  .setRegister 0x30 7,
  .setRegister connector 1,
  .receiveFault (some .timedOut),
  .call (.access (.read 0x30)),
  .receiveFault none]

theorem reads_own_register_unanswered :
    (run .zero { line := {} } unanswered).line.adapter.pendingRead = some 0x30 ∧
      (read .zero connector (run .zero { line := {} } unanswered)).1 = .ok 1 ∧
      1 = lastGiven unanswered connector := by
  obtain ⟨hread, -⟩ := reads_own_register .zero unanswered
  obtain ⟨made, -, -, hvalue, -⟩ := hread connector
  have hanswer : (read .zero connector (run .zero { line := {} } unanswered)).1 = .ok 1 := rfl
  exact ⟨rfl, hanswer, hvalue 1 hanswer⟩

end BenchLine

end UsbDisplay
