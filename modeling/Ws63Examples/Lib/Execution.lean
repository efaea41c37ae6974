import Mathlib.Algebra.Order.Ring.Nat

/-!
# Machines and their runs

A machine answers each input of its environment with a new state and a list of
effects, or refuses it. A run keeps every move with the states around it, so
that a result about a whole history can speak of any moment of it.
-/

namespace Ws63Examples.Execution

/-- One accepted input: the states around it and what the machine did. -/
structure Move (σ ι ο : Type) where
  before : σ
  input : ι
  effects : List ο
  after : σ

section
variable {σ ι ο : Type}

/-- Every effect of a history, in order. -/
def effects (ms : List (Move σ ι ο)) : List ο := ms.flatMap Move.effects

@[simp] theorem effects_nil : effects ([] : List (Move σ ι ο)) = [] := rfl

@[simp] theorem effects_append (ms ns : List (Move σ ι ο)) :
    effects (ms ++ ns) = effects ms ++ effects ns := by
  simp [effects]

@[simp] theorem effects_singleton (m : Move σ ι ο) : effects [m] = m.effects := by
  simp [effects]

/-- What the environment answered, in order. -/
def inputs (ms : List (Move σ ι ο)) : List ι := ms.map Move.input

@[simp] theorem inputs_append (ms ns : List (Move σ ι ο)) :
    inputs (ms ++ ns) = inputs ms ++ inputs ns := by
  simp [inputs]

@[simp] theorem inputs_singleton (m : Move σ ι ο) : inputs [m] = [m.input] := rfl

/-- An answer read off its two parts. -/
theorem answer_parts {r : σ × List ο} {t : σ} {out : List ο} (h : some r = some (t, out)) :
    r.1 = t ∧ r.2 = out :=
  Prod.ext_iff.mp (Option.some.inj h)

variable (step : σ → ι → Option (σ × List ο))

inductive Run (start : σ) : List (Move σ ι ο) → σ → Prop where
  | start : Run start [] start
  | next {ms s i t out} : Run start ms s → step s i = some (t, out) →
      Run start (ms ++ [⟨s, i, out, t⟩]) t

/-- The moves a machine makes on a script of inputs. -/
def exec (s : σ) : List ι → Option (List (Move σ ι ο) × σ)
  | [] => some ([], s)
  | i :: is =>
    match step s i with
    | none => none
    | some (t, out) => (exec t is).map fun (ms, u) => (⟨s, i, out, t⟩ :: ms, u)

variable {step}

theorem Run.single {s t : σ} {i : ι} {out : List ο} (h : step s i = some (t, out)) :
    Run step s [⟨s, i, out, t⟩] t :=
  .next .start h

theorem Run.trans {s t u : σ} {ms ns : List (Move σ ι ο)} (h : Run step s ms t)
    (k : Run step t ns u) : Run step s (ms ++ ns) u := by
  induction k with
  | start => simpa using h
  | next _ hs ih => simpa only [List.append_assoc] using ih.next hs

theorem exec_run {s t : σ} (is : List ι) {ms : List (Move σ ι ο)}
    (h : exec step s is = some (ms, t)) : Run step s ms t := by
  induction is generalizing s ms with
  | nil =>
    simp only [exec, Option.some.injEq, Prod.mk.injEq] at h
    obtain ⟨rfl, rfl⟩ := h
    exact .start
  | cons i is ih =>
    simp only [exec] at h
    split at h
    · cases h
    · rename_i u out hs
      simp only [Option.map_eq_some_iff, Prod.mk.injEq, Prod.exists] at h
      obtain ⟨ns, v, hn, rfl, rfl⟩ := h
      exact (Run.single hs).trans (ih hn)

theorem exec_inputs {s t : σ} (is : List ι) {ms : List (Move σ ι ο)}
    (h : exec step s is = some (ms, t)) : inputs ms = is := by
  induction is generalizing s t ms with
  | nil =>
    simp only [exec, Option.some.injEq, Prod.mk.injEq] at h
    obtain ⟨rfl, -⟩ := h
    rfl
  | cons i is ih =>
    simp only [exec] at h
    split at h
    · cases h
    · simp only [Option.map_eq_some_iff, Prod.mk.injEq, Prod.exists] at h
      obtain ⟨ns, v, hn, rfl, -⟩ := h
      exact congrArg (i :: ·) (ih hn)

variable (step) in
/-- A script that can be executed is a run. -/
theorem exec_reaches (s : σ) (is : List ι) (p : σ → Bool)
    (h : (exec step s is).any (fun r => p r.2) = true) :
    ∃ ms t, Run step s ms t ∧ inputs ms = is ∧ p t = true := by
  cases executed : exec step s is with
  | none =>
    rw [executed] at h
    cases h
  | some r =>
    rw [executed] at h
    exact ⟨r.1, r.2, exec_run is executed, exec_inputs is executed, h⟩

variable (step) in
/-- A script whose moves and last state can be looked at. -/
theorem exec_shows (s : σ) (is : List ι) (p : List (Move σ ι ο) → σ → Bool)
    (h : (exec step s is).any (fun r => p r.1 r.2) = true) :
    ∃ ms t, Run step s ms t ∧ inputs ms = is ∧ p ms t = true := by
  cases executed : exec step s is with
  | none =>
    rw [executed] at h
    cases h
  | some r =>
    rw [executed] at h
    exact ⟨r.1, r.2, exec_run is executed, exec_inputs is executed, h⟩

/-- A history invariant: true of the empty history and kept by every move. -/
theorem Run.history {s t : σ} {ms : List (Move σ ι ο)} (h : Run step s ms t)
    {P : List (Move σ ι ο) → σ → Prop} (start : P [] s)
    (next : ∀ ms u i v out, Run step s ms u → P ms u → step u i = some (v, out) →
      P (ms ++ [⟨u, i, out, v⟩]) v) : P ms t := by
  induction h with
  | start => exact start
  | next run hs ih => exact next _ _ _ _ _ run ih hs

/-- A history splits anywhere into two runs that meet. -/
theorem Run.split {s u : σ} {ms ns : List (Move σ ι ο)} (h : Run step s (ms ++ ns) u) :
    ∃ t, Run step s ms t ∧ Run step t ns u := by
  generalize he : ms ++ ns = all at h
  induction h generalizing ns with
  | start =>
    obtain ⟨rfl, rfl⟩ := List.append_eq_nil_iff.mp he
    exact ⟨s, .start, .start⟩
  | @next done v i w out run hs ih =>
    rcases List.eq_nil_or_concat ns with rfl | ⟨init, last, rfl⟩
    · rw [List.append_nil] at he
      exact ⟨w, he ▸ run.next hs, .start⟩
    · rw [List.concat_eq_append, ← List.append_assoc] at he
      obtain ⟨hinit, hlast⟩ := List.append_inj' he rfl
      obtain ⟨t, first, rest⟩ := ih hinit
      obtain rfl : last = ⟨v, i, out, w⟩ := by simpa using hlast
      exact ⟨t, first, by simpa using rest.next hs⟩

theorem Run.nil {s t : σ} (h : Run step s [] t) : t = s := by
  generalize he : ([] : List (Move σ ι ο)) = ms at h
  cases h with
  | start => rfl
  | next => exact absurd he (by simp)

theorem Run.singleton {s t : σ} {m : Move σ ι ο} (h : Run step s [m] t) :
    m.before = s ∧ m.after = t ∧ step s m.input = some (t, m.effects) := by
  generalize he : [m] = ms at h
  cases h with
  | start => cases he
  | @next done v i w out run hs =>
    obtain ⟨hd, hm⟩ := List.append_inj' ((List.nil_append [m]).trans he) rfl
    obtain rfl : m = ⟨v, i, out, t⟩ := by simpa using hm
    subst hd
    obtain rfl := run.nil
    exact ⟨rfl, rfl, hs⟩

/-- Any move of a run was made from a state the history before it reached,
and the history after it runs on from where it ended. -/
theorem Run.at_move {s t : σ} {ms ns : List (Move σ ι ο)} {m : Move σ ι ο}
    (h : Run step s (ms ++ m :: ns) t) :
    Run step s ms m.before ∧ step m.before m.input = some (m.after, m.effects) ∧
      Run step m.after ns t := by
  obtain ⟨u, first, rest⟩ := h.split
  rw [← List.singleton_append] at rest
  obtain ⟨v, one, last⟩ := rest.split
  obtain ⟨rfl, rfl, hs⟩ := one.singleton
  exact ⟨first, hs, last⟩

/-- The first move of a run, and the rest. -/
theorem Run.uncons {s t : σ} {m : Move σ ι ο} {ms : List (Move σ ι ο)}
    (h : Run step s (m :: ms) t) :
    m.before = s ∧ step s m.input = some (m.after, m.effects) ∧ Run step m.after ms t := by
  have h : Run step s ([] ++ m :: ms) t := h
  obtain ⟨first, stepped, rest⟩ := h.at_move
  have same := first.nil
  exact ⟨same, same ▸ stepped, rest⟩

theorem Run.of_mem {s t : σ} {ms : List (Move σ ι ο)} {m : Move σ ι ο}
    (h : Run step s ms t) (hm : m ∈ ms) : step m.before m.input = some (m.after, m.effects) := by
  obtain ⟨pre, post, rfl⟩ := List.append_of_mem hm
  exact h.at_move.2.1

/-- Where a guard opens over a run, one of its moves opened it. -/
theorem Run.opened {s t : σ} {ms : List (Move σ ι ο)} (h : Run step s ms t) {guard : σ → Prop}
    {q : Move σ ι ο → Prop}
    (opens : ∀ m : Move σ ι ο, step m.before m.input = some (m.after, m.effects) →
      ¬ guard m.before → guard m.after → q m)
    (shut : ¬ guard s) (open_now : guard t) : ∃ m ∈ ms, q m := by
  induction h with
  | start => exact absurd open_now shut
  | @next ms u i t out run hs ih =>
    by_cases before : guard u
    · obtain ⟨m, hm, hq⟩ := ih before
      exact ⟨m, List.mem_append_left _ hm, hq⟩
    · exact ⟨_, List.mem_append_right _ (List.mem_singleton_self _), opens ⟨u, i, out, t⟩ hs before
        open_now⟩

/-- Between any two moves of one kind comes one of the other. -/
def Separated (p q : Move σ ι ο → Prop) (ms : List (Move σ ι ο)) : Prop :=
  ∀ pre m mid n post, ms = pre ++ m :: (mid ++ n :: post) → p m → p n → ∃ k ∈ mid, q k

/-- The moves between two moves of a run. -/
theorem Run.between {s t : σ} {pre mid post : List (Move σ ι ο)} {m n : Move σ ι ο}
    (h : Run step s (pre ++ m :: (mid ++ n :: post)) t) :
    step m.before m.input = some (m.after, m.effects) ∧ Run step m.after mid n.before ∧
      step n.before n.input = some (n.after, n.effects) := by
  obtain ⟨-, first, rest⟩ := h.at_move
  obtain ⟨middle, second, -⟩ := rest.at_move
  exact ⟨first, middle, second⟩

/-- A guard that every `p` needs open and leaves shut, and only a `q` opens. -/
theorem Run.separated {s t : σ} {ms : List (Move σ ι ο)} (h : Run step s ms t) (guard : σ → Prop)
    {p q : Move σ ι ο → Prop}
    (needs : ∀ m : Move σ ι ο, step m.before m.input = some (m.after, m.effects) → p m →
      guard m.before ∧ ¬ guard m.after)
    (opens : ∀ m : Move σ ι ο, step m.before m.input = some (m.after, m.effects) →
      ¬ guard m.before → guard m.after → q m) : Separated p q ms := by
  rintro pre m mid n post rfl hm hn
  obtain ⟨first, middle, second⟩ := h.between
  exact middle.opened opens (needs m first hm).2 (needs n second hn).1

/-- From a dry state the first `p` comes before any `q`. -/
theorem Run.first {s t : σ} {mid post : List (Move σ ι ο)} {n : Move σ ι ο}
    (h : Run step s (mid ++ n :: post) t) {dry : σ → Prop} {p q : Move σ ι ο → Prop}
    (goes : ∀ m : Move σ ι ο, step m.before m.input = some (m.after, m.effects) →
      dry m.before → p m ∨ dry m.after ∧ ¬ q m) (hs : dry s) (hn : p n) :
    ∃ before k after, mid ++ n :: post = before ++ k :: after ∧ p k ∧ ∀ j ∈ before, ¬ q j := by
  induction mid generalizing s with
  | nil => exact ⟨[], n, post, rfl, hn, nofun⟩
  | cons m mid ih =>
    obtain ⟨rfl, stepped, rest⟩ := h.uncons
    rcases goes m stepped hs with hp | ⟨still, quiet⟩
    · exact ⟨[], m, mid ++ n :: post, rfl, hp, nofun⟩
    · obtain ⟨before, k, after, split, hk, quiet_before⟩ := ih rest still
      refine ⟨m :: before, k, after, congrArg (m :: ·) split, hk, ?_⟩
      intro j hj
      rcases List.mem_cons.mp hj with rfl | hj
      · exact quiet
      · exact quiet_before j hj

/-- Where every two `p` are separated, no dry state is met behind a `p` with a
`p` still to come and no `q` in between. -/
theorem Separated.not_dry {t u : σ} {ms pre quiet mid post : List (Move σ ι ο)}
    {m n : Move σ ι ο} {p q : Move σ ι ο → Prop} (separated : Separated p q ms)
    (dry : σ → Prop) (split : ms = pre ++ m :: (quiet ++ (mid ++ n :: post)))
    (rest : Run step u (mid ++ n :: post) t)
    (goes : ∀ m : Move σ ι ο, step m.before m.input = some (m.after, m.effects) →
      dry m.before → p m ∨ dry m.after ∧ ¬ q m) (hm : p m) (hn : p n)
    (still : ∀ k ∈ quiet, ¬ q k) : ¬ dry u := by
  intro hu
  obtain ⟨before, k, after, first, hk, none⟩ := rest.first goes hu hn
  obtain ⟨j, hj, hq⟩ := separated pre m (quiet ++ before) k after
    (by rw [split, first, List.append_assoc]) hm hk
  rcases List.mem_append.mp hj with hj | hj
  · exact still j hj hq
  · exact none j hj hq

/-- A way from a `p` on to the next: quiet moves into a dry state. -/
def Parches (step : σ → ι → Option (σ × List ο)) (dry : σ → Prop) (q : Move σ ι ο → Prop)
    (mid : List (Move σ ι ο)) (t : σ) : Prop :=
  ∃ quiet rest u, mid = quiet ++ rest ∧ (∀ k ∈ quiet, ¬ q k) ∧ dry u ∧ Run step u rest t

/-- Where each `p` that another follows either waits for a `q` or runs dry, two `p` are
separated exactly when the first always waits. -/
theorem Run.separated_iff {s t : σ} {ms : List (Move σ ι ο)} (h : Run step s ms t)
    {p q : Move σ ι ο → Prop} {waits : Move σ ι ο → List (Move σ ι ο) → Prop} (dry : σ → Prop)
    (goes : ∀ m : Move σ ι ο, step m.before m.input = some (m.after, m.effects) →
      dry m.before → p m ∨ dry m.after ∧ ¬ q m)
    (decided : ∀ (m : Move σ ι ο) mid (n : Move σ ι ο),
      step m.before m.input = some (m.after, m.effects) → Run step m.after mid n.before →
      step n.before n.input = some (n.after, n.effects) → p m → p n →
      waits m mid ∧ (∃ k ∈ mid, q k) ∨ ¬ waits m mid ∧ Parches step dry q mid n.before) :
    Separated p q ms ↔
      ∀ pre m mid n post, ms = pre ++ m :: (mid ++ n :: post) → p m → p n → waits m mid := by
  constructor
  · intro separated pre m mid n post split hm hn
    obtain ⟨first, middle, last⟩ := (split ▸ h).between
    obtain ⟨waits, -⟩ | ⟨-, quiet, rest, u, rfl, still, hu, on⟩ :=
      decided m mid n first middle last hm hn
    · exact waits
    · obtain ⟨-, -, behind⟩ := (split ▸ h).at_move
      obtain ⟨reached, stepped, final⟩ := behind.at_move
      have tail : Run step n.before (n :: post) t := (Run.single stepped).trans final
      rw [List.append_assoc] at split
      exact absurd hu (separated.not_dry dry split (on.trans tail) goes hm hn still)
  · intro waited pre m mid n post split hm hn
    obtain ⟨first, middle, last⟩ := (split ▸ h).between
    obtain ⟨-, polled⟩ | ⟨unwaited, -⟩ := decided m mid n first middle last hm hn
    · exact polled
    · exact absurd (waited pre m mid n post split hm hn) unwaited

/-- A part of a machine, which some inputs move and all others leave alone: it makes a
run of its own. -/
theorem Run.project {σ' ι' ο' : Type} {step' : σ' → ι' → Option (σ' × List ο')} {s t : σ}
    {ms : List (Move σ ι ο)} (h : Run step s ms t) (part : σ → σ') (pick : ι → Option ι')
    (see : ο → Option ο')
    (moved : ∀ u i v out i', step u i = some (v, out) → pick i = some i' →
      step' (part u) i' = some (part v, out.filterMap see))
    (apart : ∀ u i v out, step u i = some (v, out) → pick i = none →
      part v = part u ∧ out.filterMap see = []) :
    ∃ ns, Run step' (part s) ns (part t) ∧ inputs ns = (inputs ms).filterMap pick ∧
      effects ns = (effects ms).filterMap see := by
  induction h with
  | start => exact ⟨[], .start, rfl, rfl⟩
  | @next ms u i t out run hs ih =>
    obtain ⟨ns, own, asked, seen⟩ := ih
    rw [inputs_append, inputs_singleton, effects_append, effects_singleton, List.filterMap_append,
      List.filterMap_append, ← asked, ← seen]
    cases picked : pick i with
    | none =>
      obtain ⟨same, silent⟩ := apart u i t out hs picked
      refine ⟨ns, same.symm ▸ own, ?_, ?_⟩
      · simp [picked]
      · simp [silent]
    | some i' =>
      refine ⟨_, own.next (moved u i t out i' hs picked), ?_, ?_⟩
      · simp [picked]
      · simp

variable (step) in
/-- A run that never ends. -/
structure Play (start : σ) where
  state : Nat → σ
  input : Nat → ι
  out : Nat → List ο
  begins : state 0 = start
  steps : ∀ t, step (state t) (input t) = some (state (t + 1), out t)

/-- The first `t` moves of an unending run. -/
def Play.moves {s : σ} (play : Play step s) (t : Nat) : List (Move σ ι ο) :=
  (List.range t).map fun u => ⟨play.state u, play.input u, play.out u, play.state (u + 1)⟩

theorem Play.run {s : σ} (play : Play step s) (t : Nat) :
    Run step s (play.moves t) (play.state t) := by
  induction t with
  | zero => simpa [moves, play.begins] using (Run.start : Run step s [] s)
  | succ t ih =>
    simp only [moves, List.range_succ, List.map_append, List.map_cons, List.map_nil]
    exact ih.next (play.steps t)

/-- Inputs that every finite history has at most `n` of do not come forever. -/
theorem Play.bounded {s : σ} (play : Play step s) (p : ι → Bool) (n : Nat)
    (bound : ∀ t, (inputs (play.moves t)).countP p ≤ n) :
    ¬ ∀ t, ∃ u, t ≤ u ∧ p (play.input u) = true := by
  intro forever
  have grows : ∀ k, ∃ t, k ≤ (inputs (play.moves t)).countP p := by
    intro k
    induction k with
    | zero => exact ⟨0, Nat.zero_le _⟩
    | succ k ih =>
      obtain ⟨t, ht⟩ := ih
      obtain ⟨u, htu, hu⟩ := forever t
      have later : (inputs (play.moves t)).Sublist (inputs (play.moves u)) :=
        ((List.range_sublist.mpr htu).map _).map _
      have := later.countP_le (p := p)
      refine ⟨u + 1, ?_⟩
      simp only [moves, List.range_succ, List.map_append, List.map_cons, List.map_nil,
        inputs_append, inputs_singleton, List.countP_append, List.countP_cons, hu, if_true,
        List.countP_nil]
      simp only [moves] at this ht
      omega
  obtain ⟨t, ht⟩ := grows (n + 1)
  have := bound t
  omega

end

end Ws63Examples.Execution
