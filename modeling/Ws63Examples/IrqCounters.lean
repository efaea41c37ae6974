import Mathlib.Data.List.Nodup
import Ws63Examples.Lib.Execution
import Ws63Examples.Lib.History

/-!
# Interrupts counted and shown

`gpio_irq` and `timer_irq`: a handler counts, and the loop of the program shows the count when
it finds that it changed. Interrupts come in between any two steps of the loop.
-/

namespace Ws63Examples.IrqCounters

open Execution History

inductive Effect where
  | store (register value : UInt32)
  | clearPending
  | irqNumber (count : UInt32)
  | delivered
  deriving DecidableEq, Repr

namespace TimerIrq

def timer0Eoi : UInt32 := 0x44002114

/-- `tirq_handle`: the count it leaves. -/
def tirqHandle (ticks : UInt32) : UInt32 × List Effect :=
  (ticks + 1, [.store timer0Eoi 1])

end TimerIrq

namespace GpioIrq

def gpio0 : UInt32 := 0x44028000
def gpioIntEoi : UInt32 := gpio0 + 0x2c
def gpioDataSet : UInt32 := gpio0 + 0x30
def gpioDataClr : UInt32 := gpio0 + 0x34

/-- An interrupt, and of this number. -/
def isGpio0 (gpio0Irq mcause : UInt32) : Bool :=
  mcause &&& 0x80000000 != 0 && mcause &&& 0xfff == gpio0Irq

/-- `girq_handle`: the count it leaves. The interrupt's number is the driver's. -/
def girqHandle (gpio0Irq mcause count : UInt32) : UInt32 × List Effect :=
  if isGpio0 gpio0Irq mcause then (count + 1, [.store gpioIntEoi 1, .clearPending])
  else (count, [])

/-- A falling and a rising edge. -/
def edge : List Effect := [.store gpioDataClr 1, .store gpioDataSet 1]

end GpioIrq

inductive Program where
  | timerIrq
  | gpioIrq (gpio0Irq : UInt32)

namespace Program

def handle : Program → (mcause count : UInt32) → UInt32 × List Effect
  | .timerIrq => fun _ => TimerIrq.tirqHandle
  | .gpioIrq gpio0Irq => GpioIrq.girqHandle gpio0Irq

/-- What the loop does before it looks at the count. -/
def drive : Program → List Effect
  | .timerIrq => []
  | .gpioIrq _ => GpioIrq.edge

def counts : Program → (mcause : UInt32) → Bool
  | .timerIrq => fun _ => true
  | .gpioIrq gpio0Irq => GpioIrq.isGpio0 gpio0Irq

end Program

inductive Point where
  | drive
  | read
  deriving DecidableEq, Repr

structure Counter where
  count : UInt32
  last : UInt32
  point : Point
  deriving DecidableEq, Repr

inductive Input where
  | interrupt (mcause : UInt32)
  | resume
  deriving DecidableEq, Repr

def Counter.boot : Counter := ⟨0, 0, .drive⟩

/-- The look at the count: a single read. -/
def Counter.look (s : Counter) : Counter × List Effect :=
  if s.count ≠ s.last then
    ({ s with last := s.count, point := .drive },
      .irqNumber s.count :: if s.count = 5 then [.delivered] else [])
  else ({ s with point := .drive }, [])

def main (p : Program) (s : Counter) : Input → Option (Counter × List Effect)
  | .interrupt mcause =>
    let (count, out) := p.handle mcause s.count
    some ({ s with count }, out)
  | .resume =>
    match s.point with
    | .drive => some ({ s with point := .read }, p.drive)
    | .read => some s.look

abbrev Moves := List (Move Counter Input Effect)

def Program.counted (p : Program) : Input → Bool
  | .interrupt mcause => p.counts mcause
  | .resume => false

/-- How many interrupts were counted. -/
def arrived (p : Program) (ms : Moves) : Nat := ms.countP fun m => p.counted m.input

def Effect.number? : Effect → Option UInt32
  | .irqNumber count => some count
  | _ => none

/-- The numbers shown, in order. -/
def numbers (ms : Moves) : List UInt32 := (effects ms).filterMap Effect.number?

/-- How often the success line was written. -/
def successes (ms : Moves) : Nat := (effects ms).count .delivered

/-- The loop looked when so many interrupts had been counted. -/
def Found (p : Program) (ms : Moves) (n : Nat) : Prop :=
  ∃ pre m post, ms = pre ++ m :: post ∧ m.input = .resume ∧ m.before.point = .read ∧
    arrived p pre = n

theorem arrived_snoc (p : Program) (ms : Moves) (m : Move Counter Input Effect) :
    arrived p (ms ++ [m]) = arrived p ms + if p.counted m.input then 1 else 0 := by
  rw [arrived, List.countP_append, List.countP_singleton, arrived]

theorem numbers_snoc (ms : Moves) (m : Move Counter Input Effect) :
    numbers (ms ++ [m]) = numbers ms ++ m.effects.filterMap Effect.number? := by
  simp [numbers]

theorem successes_snoc (ms : Moves) (m : Move Counter Input Effect) :
    successes (ms ++ [m]) = successes ms + m.effects.count .delivered := by
  simp [successes]

theorem found_snoc {p : Program} {ms : Moves} {m : Move Counter Input Effect} {n : Nat} :
    Found p (ms ++ [m]) n ↔
      Found p ms n ∨ (m.input = .resume ∧ m.before.point = .read ∧ arrived p ms = n) := by
  constructor
  · rintro ⟨pre, k, post, split, resumed, at_read, count⟩
    rcases snoc_split split with ⟨rfl, rfl, -⟩ | ⟨rest, -, whole⟩
    · exact .inr ⟨resumed, at_read, count⟩
    · exact .inl ⟨pre, k, rest, whole, resumed, at_read, count⟩
  · rintro (⟨pre, k, post, rfl, resumed, at_read, count⟩ | ⟨resumed, at_read, count⟩)
    · exact ⟨pre, k, post ++ [m], by simp, resumed, at_read, count⟩
    · exact ⟨ms, m, [], rfl, resumed, at_read, count⟩

theorem girqHandle_spec (gpio0Irq mcause count : UInt32) :
    (GpioIrq.girqHandle gpio0Irq mcause count).1 =
        (if GpioIrq.isGpio0 gpio0Irq mcause then count + 1 else count) ∧
      (GpioIrq.girqHandle gpio0Irq mcause count).2.filterMap Effect.number? = [] ∧
      (GpioIrq.girqHandle gpio0Irq mcause count).2.count .delivered = 0 := by
  unfold GpioIrq.girqHandle
  by_cases ours : GpioIrq.isGpio0 gpio0Irq mcause
  · rw [if_pos ours, if_pos ours]
    exact ⟨rfl, rfl, rfl⟩
  · rw [if_neg ours, if_neg ours]
    exact ⟨rfl, rfl, rfl⟩

/-- What a handler does to the count, and that it writes no line. -/
theorem handle_spec (p : Program) (mcause count : UInt32) :
    (p.handle mcause count).1 = (if p.counts mcause then count + 1 else count) ∧
      (p.handle mcause count).2.filterMap Effect.number? = [] ∧
      (p.handle mcause count).2.count .delivered = 0 := by
  cases p with
  | timerIrq => exact ⟨rfl, rfl, rfl⟩
  | gpioIrq gpio0Irq => exact girqHandle_spec gpio0Irq mcause count

theorem drive_quiet (p : Program) :
    p.drive.filterMap Effect.number? = [] ∧ p.drive.count .delivered = 0 := by
  cases p with
  | timerIrq => exact ⟨rfl, rfl⟩
  | gpioIrq gpio0Irq => exact ⟨rfl, rfl⟩

/-- One move of the machine. -/
inductive Step (p : Program) (s : Counter) : Input → Counter → List Effect → Prop where
  | interrupt (mcause : UInt32) {out : List Effect}
      (unsaid : out.filterMap Effect.number? = []) (quiet : out.count .delivered = 0) :
      Step p s (.interrupt mcause)
        { s with count := if p.counts mcause then s.count + 1 else s.count } out
  | drive {out : List Effect} (at_point : s.point = .drive)
      (unsaid : out.filterMap Effect.number? = []) (quiet : out.count .delivered = 0) :
      Step p s .resume { s with point := .read } out
  | same (at_point : s.point = .read) (same : s.count = s.last) :
      Step p s .resume { s with point := .drive } []
  | changed (at_point : s.point = .read) (changed : s.count ≠ s.last) :
      Step p s .resume { s with last := s.count, point := .drive }
        (.irqNumber s.count :: if s.count = 5 then [.delivered] else [])

theorem main_cases {p : Program} {s t : Counter} {i : Input} {out : List Effect}
    (h : main p s i = some (t, out)) : Step p s i t out := by
  cases i with
  | interrupt mcause =>
    have spec := handle_spec p mcause s.count
    simp only [main] at h
    generalize p.handle mcause s.count = handled at spec h
    obtain ⟨count, said⟩ := handled
    dsimp only at spec
    obtain ⟨rfl, unsaid, quiet⟩ := spec
    obtain ⟨rfl, rfl⟩ := answer_parts h
    exact .interrupt mcause unsaid quiet
  | resume =>
    simp only [main] at h
    cases at_point : s.point with
    | drive =>
      rw [at_point] at h
      obtain ⟨rfl, rfl⟩ := answer_parts h
      exact .drive at_point (drive_quiet p).1 (drive_quiet p).2
    | read =>
      rw [at_point] at h
      obtain ⟨rfl, rfl⟩ := answer_parts h
      unfold Counter.look
      by_cases changed : s.count ≠ s.last
      · rw [if_pos changed]
        exact .changed at_point changed
      · rw [if_neg changed]
        exact .same at_point (not_not.mp changed)

/-- What has been shown, as long as the count has not wrapped around. -/
structure Shows (p : Program) (ms : Moves) (s : Counter) : Prop where
  count : s.count.toNat = arrived p ms
  bound : s.last ≤ s.count
  below : ∀ n ∈ numbers ms, n ≤ s.last
  increasing : (numbers ms).Pairwise (· < ·)
  last : s.last = 0 ∨ s.last ∈ numbers ms
  exact : ∀ n, n ∈ numbers ms ↔ 0 < n ∧ Found p ms n.toNat
  success : successes ms = (numbers ms).count 5

theorem Shows.boot (p : Program) : Shows p [] .boot where
  count := rfl
  bound := by decide
  below := fun n there => absurd there List.not_mem_nil
  increasing := .nil
  last := .inl rfl
  exact := by
    intro n
    constructor
    · intro there
      exact absurd there List.not_mem_nil
    · rintro ⟨-, pre, m, post, split, -⟩
      exact absurd split.symm (by simp)
  success := rfl

section
variable {p : Program} {ms : Moves} {s t : Counter} {i : Input} {out : List Effect}

/-- A move that shows nothing and finds nothing new. -/
theorem Shows.quiet (shows : Shows p ms s)
    (count : t.count.toNat = arrived p (ms ++ [⟨s, i, out, t⟩]))
    (grown : s.count ≤ t.count) (kept : t.last = s.last)
    (unsaid : out.filterMap Effect.number? = []) (silent : out.count .delivered = 0)
    (nothing : ∀ n, 0 < n → i = .resume → s.point = .read → arrived p ms = n.toNat →
      n ∈ numbers ms) : Shows p (ms ++ [⟨s, i, out, t⟩]) t := by
  have same : numbers (ms ++ [⟨s, i, out, t⟩]) = numbers ms := by
    rw [numbers_snoc, unsaid, List.append_nil]
  constructor
  · exact count
  · rw [kept]
    exact UInt32.le_trans shows.bound grown
  · rw [same, kept]
    exact shows.below
  · rw [same]
    exact shows.increasing
  · rw [same, kept]
    exact shows.last
  · intro n
    rw [same, found_snoc]
    constructor
    · intro there
      obtain ⟨positive, found⟩ := (shows.exact n).mp there
      exact ⟨positive, .inl found⟩
    · rintro ⟨positive, found | ⟨resumed, at_read, now⟩⟩
      · exact (shows.exact n).mpr ⟨positive, found⟩
      · exact nothing n positive resumed at_read now
  · rw [successes_snoc, same, silent]
    exact shows.success

/-- The loop shows a count that it has not shown. -/
theorem Shows.changed (shows : Shows p ms s) (at_point : s.point = .read)
    (changed : s.count ≠ s.last) :
    Shows p (ms ++ [⟨s, .resume, .irqNumber s.count :: (if s.count = 5 then [.delivered] else []),
      { s with last := s.count, point := .drive }⟩])
      { s with last := s.count, point := .drive } := by
  have advanced : s.last < s.count := by
    rw [UInt32.lt_iff_toNat_lt]
    have bound := UInt32.le_iff_toNat_le.mp shows.bound
    have apart : s.count.toNat ≠ s.last.toNat := fun same => changed (UInt32.toNat_inj.mp same)
    omega
  have more : numbers (ms ++ [⟨s, .resume,
      .irqNumber s.count :: (if s.count = 5 then [.delivered] else []),
      { s with last := s.count, point := .drive }⟩]) = numbers ms ++ [s.count] := by
    rw [numbers_snoc]
    by_cases five : s.count = 5
    · rw [if_pos five]
      rfl
    · rw [if_neg five]
      rfl
  constructor
  · rw [arrived_snoc]
    exact shows.count
  · exact UInt32.le_refl s.count
  · rw [more]
    intro n there
    rcases List.mem_append.mp there with before | now
    · exact UInt32.le_of_lt (UInt32.lt_of_le_of_lt (shows.below n before) advanced)
    · rw [List.mem_singleton.mp now]
      exact UInt32.le_refl s.count
  · rw [more]
    refine List.pairwise_append.mpr ⟨shows.increasing, List.pairwise_singleton _ _, ?_⟩
    intro a before b now
    rw [List.mem_singleton.mp now]
    exact UInt32.lt_of_le_of_lt (shows.below a before) advanced
  · rw [more]
    exact .inr (List.mem_append_right _ (List.mem_singleton.mpr rfl))
  · intro n
    rw [more, List.mem_append, List.mem_singleton, found_snoc]
    constructor
    · rintro (before | rfl)
      · obtain ⟨positive, found⟩ := (shows.exact n).mp before
        exact ⟨positive, .inl found⟩
      · have positive : (0 : UInt32) < s.count := UInt32.lt_of_le_of_lt UInt32.zero_le advanced
        exact ⟨positive, .inr ⟨rfl, at_point, shows.count.symm⟩⟩
    · rintro ⟨positive, found | ⟨-, -, now⟩⟩
      · exact .inl ((shows.exact n).mpr ⟨positive, found⟩)
      · exact .inr (UInt32.toNat_inj.mp (now.symm.trans shows.count.symm))
  · rw [successes_snoc, more, List.count_append, shows.success]
    by_cases five : s.count = 5
    · rw [if_pos five, five]
      rfl
    · have none : [s.count].count 5 = 0 := by
        rw [List.count_singleton, if_neg (by simp [five])]
      rw [if_neg five, none]
      rfl

theorem step_shows (shows : Shows p ms s) (h : main p s i = some (t, out))
    (fits : arrived p (ms ++ [⟨s, i, out, t⟩]) < 2 ^ 32) :
    Shows p (ms ++ [⟨s, i, out, t⟩]) t := by
  cases main_cases h with
  | interrupt mcause unsaid quiet =>
    rw [arrived_snoc] at fits
    have next : (if p.counts mcause then s.count + 1 else s.count).toNat =
        arrived p ms + if p.counts mcause then 1 else 0 := by
      by_cases ours : p.counts mcause
      · have room : arrived p ms + 1 < 2 ^ 32 := by simpa [Program.counted, ours] using fits
        rw [if_pos ours, if_pos ours, UInt32.toNat_add, shows.count]
        exact Nat.mod_eq_of_lt room
      · rw [if_neg ours, if_neg ours]
        exact shows.count
    refine shows.quiet ?_ ?_ rfl unsaid quiet ?_
    · rw [arrived_snoc]
      exact next
    · rw [UInt32.le_iff_toNat_le, shows.count]
      exact next ▸ Nat.le_add_right _ _
    · intro n _ resumed
      cases resumed
  | drive at_point unsaid quiet =>
    refine shows.quiet ?_ (UInt32.le_refl s.count) rfl unsaid quiet ?_
    · rw [arrived_snoc]
      exact shows.count
    · intro n _ _ at_read
      rw [at_point] at at_read
      cases at_read
  | same at_point same =>
    refine shows.quiet ?_ (UInt32.le_refl s.count) rfl rfl rfl ?_
    · rw [arrived_snoc]
      exact shows.count
    · intro n positive _ _ now
      obtain rfl : s.count = n := UInt32.toNat_inj.mp (shows.count.trans now)
      rw [same] at positive ⊢
      rcases shows.last with zero | there
      · rw [zero] at positive
        cases positive
      · exact there
  | changed at_point changed => exact shows.changed at_point changed

theorem run_shows (run : Run (main p) .boot ms s) (fits : arrived p ms < 2 ^ 32) :
    Shows p ms s := by
  refine run.history (P := fun ms s => arrived p ms < 2 ^ 32 → Shows p ms s)
    (fun _ => .boot p) ?_ fits
  intro ms u i v out _ ih stepped small
  have before : arrived p ms < 2 ^ 32 := by
    rw [arrived_snoc] at small
    omega
  exact step_shows (ih before) stepped small

/-- Until the count wraps around: the numbers shown only grow, a number is shown exactly if
the loop looked when so many interrupts had been counted, and the success line is written once
if it looked when there were five and never otherwise. -/
theorem irq_numbers (run : Run (main p) .boot ms s) (fits : arrived p ms < 2 ^ 32) :
    (numbers ms).Pairwise (· < ·) ∧ (∀ n, n ∈ numbers ms ↔ 0 < n ∧ Found p ms n.toNat) ∧
      (Found p ms 5 → successes ms = 1) ∧ (¬ Found p ms 5 → successes ms = 0) := by
  have shows := run_shows run fits
  refine ⟨shows.increasing, shows.exact, ?_, ?_⟩
  · intro found
    have there : (5 : UInt32) ∈ numbers ms := (shows.exact 5).mpr ⟨by decide, found⟩
    have distinct : (numbers ms).Nodup := shows.increasing.imp fun less => UInt32.ne_of_lt less
    rw [shows.success]
    exact List.count_eq_one_of_mem distinct there
  · intro missed
    have absent : (5 : UInt32) ∉ numbers ms := fun there => missed ((shows.exact 5).mp there).2
    rw [shows.success]
    exact List.count_eq_zero.mpr absent

end

/-- Four interrupts between two looks, and one of another number. -/
def burstScript : List Input :=
  [.interrupt 0x80000021, .resume, .resume, .resume, .interrupt 0x80000021,
    .interrupt 0x80000021, .interrupt 0x80000007, .interrupt 0x80000021,
    .interrupt 0x80000021, .resume, .resume, .resume]

theorem irq_numbers_burst : ∃ ms s, Run (main (.gpioIrq 33)) .boot ms s ∧
    arrived (.gpioIrq 33) ms = 5 ∧ numbers ms = [1, 5] ∧ Found (.gpioIrq 33) ms 5 ∧
    successes ms = 1 := by
  obtain ⟨ms, s, run, -, said⟩ := exec_shows (main (.gpioIrq 33)) .boot burstScript
    (fun ms _ => arrived (.gpioIrq 33) ms = 5 ∧ numbers ms = [1, 5]) (by decide)
  obtain ⟨five, shown⟩ := of_decide_eq_true said
  obtain ⟨-, exact, once, -⟩ := irq_numbers run (by rw [five]; decide)
  have found : Found (.gpioIrq 33) ms 5 := ((exact 5).mp (by rw [shown]; decide)).2
  exact ⟨ms, s, run, five, shown, found, once found⟩

end Ws63Examples.IrqCounters
