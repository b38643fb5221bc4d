import HardwareReport.Proofs.Processor.Load
import HardwareReport.Proofs.Snapshot.Sections

/-!
# Snapshot — questions to a layer

Apart from the counters a layer has some twenty questions, and every section but that of the
processor is made of their answers alone. Two states of a layer cannot be told apart by some of the
questions if every series of them gets the same replies in both; what is made of these questions
then comes out the same.

* `Question`, `Layer.ask` — the questions;
* `Layer.Alike` — states that some questions do not tell apart;
* `Layer.Blind`, `Layer.Keeps` — computations that do not tell alike states apart, and those that
  leave a state alike to what it was;
* `Layer.blind_readSection` — sections are read by their questions.
-/

namespace HardwareReport

/-! ## Questions -/

/-- A question to a layer, other than for a sample of the counters. -/
inductive Question where
  | identity
  | logicalCount
  | loadAverage
  | systemLoad
  | memoryTotal
  | memoryAvailable
  | swapTotal
  | swapUsed
  | manufacturer
  | model
  | serialNumber
  | firmware
  | temperatures
  | fanSpeeds
  | disks
  | displays
  | network
  | sound
  | power
  | usb (tree : Bool)

namespace Question

/-- The section that a question is asked for. -/
def area : Question → Section
  | .identity | .logicalCount | .loadAverage | .systemLoad => .processor
  | .memoryTotal | .memoryAvailable | .swapTotal | .swapUsed => .memory
  | .manufacturer | .model | .serialNumber | .firmware => .system
  | .temperatures | .fanSpeeds => .sensors
  | .disks => .disks
  | .displays => .displays
  | .network => .network
  | .sound => .sound
  | .power => .power
  | .usb _ => .usb

/-- What is replied to a question. -/
def Reply : Question → Type
  | .identity => Answer Identity
  | .logicalCount => Nat
  | .loadAverage => Option Float
  | .systemLoad => Float32
  | .memoryTotal | .memoryAvailable | .swapTotal | .swapUsed => Answer UInt64
  | .manufacturer | .model | .serialNumber => Answer (Option String)
  | .firmware => Answer Firmware
  | .temperatures => Answer (List Temperature)
  | .fanSpeeds => Answer (List UInt32)
  | .disks => Answer (List Disk)
  | .displays => Answer (List Display)
  | .network => Answer (List NetworkInterface)
  | .sound => Answer (List SoundCard)
  | .power => Answer (List PowerSource)
  | .usb _ => Answer (List UsbDevice)

end Question

namespace Layer

/-- Asks a layer a question. -/
def ask {m : Type → Type} (layer : Layer m) : (question : Question) → m question.Reply
  | .identity => layer.processor.identity.run
  | .logicalCount => layer.processor.logicalCount
  | .loadAverage => layer.processor.loadAverage
  | .systemLoad => layer.processor.systemLoad
  | .memoryTotal => layer.memory.total.run
  | .memoryAvailable => layer.memory.available.run
  | .swapTotal => layer.memory.swapTotal.run
  | .swapUsed => layer.memory.swapUsed.run
  | .manufacturer => layer.system.manufacturer.run
  | .model => layer.system.model.run
  | .serialNumber => layer.system.serialNumber.run
  | .firmware => layer.system.firmware.run
  | .temperatures => layer.sensors.temperatures.run
  | .fanSpeeds => layer.sensors.fanSpeeds.run
  | .disks => layer.disks.run
  | .displays => layer.displays.run
  | .network => layer.network.run
  | .sound => layer.sound.run
  | .power => layer.power.run
  | .usb tree => (layer.usb tree).run

variable {σ α β : Type}

/-- The replies to questions that are asked one after the other. -/
def replies (layer : Layer (StateM σ)) :
    List Question → σ → List (Σ question : Question, question.Reply)
  | [], _ => []
  | question :: rest, s =>
    ⟨question, ((layer.ask question).run s).1⟩ :: layer.replies rest ((layer.ask question).run s).2

/-! ## Alike states -/

/-- Two states are alike to some questions if every series of these gets the same replies in
both. -/
def Alike (layer : Layer (StateM σ)) (among : Question → Prop) (s t : σ) : Prop :=
  ∀ questions : List Question, (∀ question ∈ questions, among question) →
    layer.replies questions s = layer.replies questions t

/-- A computation has the same result in states that are alike, and leaves states that are. -/
def Blind (layer : Layer (StateM σ)) (among : Question → Prop) (x : StateM σ α) : Prop :=
  ∀ s t, layer.Alike among s t →
    (x.run s).1 = (x.run t).1 ∧ layer.Alike among (x.run s).2 (x.run t).2

/-- A computation leaves a state that is alike to the one it began in. -/
def Keeps (layer : Layer (StateM σ)) (among : Question → Prop) (x : StateM σ α) : Prop :=
  ∀ s, layer.Alike among s (x.run s).2

variable {layer : Layer (StateM σ)} {among : Question → Prop}

namespace Alike

variable {s t u : σ}

theorem refl (s : σ) : layer.Alike among s s :=
  fun _ _ => rfl

theorem symm (h : layer.Alike among s t) : layer.Alike among t s :=
  fun questions hAmong => (h questions hAmong).symm

theorem trans (h : layer.Alike among s t) (hLast : layer.Alike among t u) :
    layer.Alike among s u :=
  fun questions hAmong => (h questions hAmong).trans (hLast questions hAmong)

theorem mono {fewer : Question → Prop} (h : layer.Alike among s t)
    (hFewer : ∀ question, fewer question → among question) : layer.Alike fewer s t :=
  fun questions hAll => h questions fun question hMem => hFewer question (hAll question hMem)

end Alike

/-- A layer that always gives the same replies tells no states apart. -/
theorem alike_of_constant (h : ∀ question, ∃ reply, layer.ask question = pure reply) (s t : σ) :
    layer.Alike among s t := by
  intro questions hAmong
  clear hAmong
  induction questions generalizing s t with
  | nil => rfl
  | cons question rest ih =>
    obtain ⟨reply, hReply⟩ := h question
    rw [replies, replies, hReply]
    exact congrArg _ (ih s t)

namespace Blind

theorem pure (a : α) : layer.Blind among (pure a : StateM σ α) :=
  fun _ _ h => ⟨rfl, h⟩

theorem bind {x : StateM σ α} {f : α → StateM σ β} (hx : layer.Blind among x)
    (hf : ∀ a, layer.Blind among (f a)) : layer.Blind among (x >>= f) := by
  intro s t h
  obtain ⟨hResult, hState⟩ := hx s t h
  rw [run_state_bind, run_state_bind, ← hResult]
  exact hf _ _ _ hState

theorem bindAnswer {x : ExceptT HardwareError (StateM σ) α}
    {f : α → ExceptT HardwareError (StateM σ) β} (hx : layer.Blind among x.run)
    (hf : ∀ a, layer.Blind among (f a).run) : layer.Blind among (x >>= f).run := by
  rw [ExceptT.run_bind]
  refine hx.bind fun answer => ?_
  cases answer with
  | ok a => exact hf a
  | error error => exact .pure _

/-- Every one of the questions is a computation that does not tell alike states apart. -/
theorem ask (question : Question) (h : among question) :
    layer.Blind among (layer.ask question) := by
  intro s t hAlike
  have hOne := hAlike [question] (by simpa using h)
  refine ⟨eq_of_heq (Sigma.mk.inj (List.head_eq_of_cons_eq hOne)).2, fun questions hAll => ?_⟩
  have hMore := hAlike (question :: questions) (List.forall_mem_cons.mpr ⟨h, hAll⟩)
  exact List.tail_eq_of_cons_eq hMore

end Blind

namespace Keeps

theorem pure (a : α) : layer.Keeps among (pure a : StateM σ α) :=
  Alike.refl

theorem bind {x : StateM σ α} {f : α → StateM σ β} (hx : layer.Keeps among x)
    (hf : ∀ a, layer.Keeps among (f a)) : layer.Keeps among (x >>= f) := by
  intro s
  rw [run_state_bind]
  exact (hx s).trans (hf _ _)

theorem bindAnswer {x : ExceptT HardwareError (StateM σ) α}
    {f : α → ExceptT HardwareError (StateM σ) β} (hx : layer.Keeps among x.run)
    (hf : ∀ a, layer.Keeps among (f a).run) : layer.Keeps among (x >>= f).run := by
  rw [ExceptT.run_bind]
  refine hx.bind fun answer => ?_
  cases answer with
  | ok a => exact hf a
  | error error => exact .pure _

theorem lift {x : StateM σ α} (h : layer.Keeps among x) :
    layer.Keeps among (liftM x : ExceptT HardwareError (StateM σ) α).run := by
  intro s
  rw [ExceptT.run_liftM, run_state_map]
  exact h s

end Keeps

/-! ## Sections -/

/-- **A section other than that of the processor is read by its questions**: it comes out the same
in states that these do not tell apart. -/
theorem blind_readSection (interrupt : Interrupt (StateM σ)) (options : ReportOptions)
    {area : Section} (hArea : area ≠ .processor)
    (hAmong : ∀ question : Question, question.area = area → among question) :
    layer.Blind among (layer.readSection interrupt options area).run := by
  have hAsk : ∀ question : Question, question.area = area →
      layer.Blind among (layer.ask question) :=
    fun question h => .ask question (hAmong question h)
  -- one question after the other, until one fails
  cases area with
  | processor => exact absurd rfl hArea
  | memory =>
    exact .bindAnswer (hAsk .memoryTotal rfl) fun _ => .bindAnswer (hAsk .memoryAvailable rfl)
      fun _ => .bindAnswer (hAsk .swapTotal rfl) fun _ => .bindAnswer (hAsk .swapUsed rfl)
      fun _ => .pure _
  | system =>
    exact .bindAnswer (hAsk .manufacturer rfl) fun _ => .bindAnswer (hAsk .model rfl)
      fun _ => .bindAnswer (hAsk .serialNumber rfl) fun _ => .bindAnswer (hAsk .firmware rfl)
      fun _ => .pure _
  | sensors =>
    exact .bindAnswer (hAsk .temperatures rfl) fun _ =>
      .bindAnswer (.bind (hAsk .fanSpeeds rfl) fun _ => .pure _) fun _ => .pure _
  | disks => exact hAsk .disks rfl
  | displays => exact hAsk .displays rfl
  | network => exact hAsk .network rfl
  | sound => exact hAsk .sound rfl
  | power => exact hAsk .power rfl
  | usb => exact hAsk (.usb options.usbTree) rfl

end Layer

end HardwareReport
