/-
# Transcripts

What a program asks of its surroundings on its way to a result, with the answers it is given.
Nothing is assumed about the answers. What holds of every transcript therefore holds whoever
answers: a store, a service on the network, or somebody who thinks up every answer with a view
to all that was asked before.
-/

import DnsReconcile.Engine.Reconcile

namespace DnsReconcile

universe u

namespace Program

variable {Effect : Type} {Answer : Effect → Type} {α β : Type u}

/-- An effect and the answer to it. -/
abbrev Exchange (Effect : Type) (Answer : Effect → Type) : Type :=
  (effect : Effect) × Answer effect

/-- What a program asks and is answered on its way to a result. -/
inductive Transcript : Program Effect Answer α → List (Exchange Effect Answer) → α → Prop where
  | done (result : α) : Transcript (.done result) [] result
  | ask {effect : Effect} {next : Answer effect → Program Effect Answer α}
      {answer : Answer effect} {rest : List (Exchange Effect Answer)} {result : α}
      (later : Transcript (next answer) rest result) :
      Transcript (.ask effect next) (⟨effect, answer⟩ :: rest) result

section Inversion

variable {program : Program Effect Answer α} {asked : List (Exchange Effect Answer)}

theorem transcript_done_iff {given result : α} :
    Transcript (.done given) asked result ↔ asked = [] ∧ result = given := by
  apply Iff.intro
  · rintro ⟨⟩
    exact ⟨rfl, rfl⟩
  · rintro ⟨rfl, rfl⟩
    exact .done _

theorem transcript_ask_iff {effect : Effect} {next : Answer effect → Program Effect Answer α}
    {result : α} :
    Transcript (.ask effect next) asked result ↔
      ∃ answer rest, asked = ⟨effect, answer⟩ :: rest ∧ Transcript (next answer) rest result := by
  apply Iff.intro
  · intro ran
    cases ran with
    | ask later => exact ⟨_, _, rfl, later⟩
  · rintro ⟨answer, rest, rfl, later⟩
    exact .ask later

/-- Two programs, one after the other, ask what the first asks and then what the second does. -/
theorem transcript_bind_iff {next : α → Program Effect Answer β} {result : β} :
    Transcript (program >>= next) asked result ↔
      ∃ first second middle, asked = first ++ second ∧ Transcript program first middle ∧
        Transcript (next middle) second result := by
  change Transcript (program.bind next) asked result ↔ _
  induction program generalizing asked with
  | done given =>
      apply Iff.intro
      · exact fun later => ⟨[], asked, given, rfl, .done given, later⟩
      · rintro ⟨first, second, middle, rfl, ended, later⟩
        obtain ⟨rfl, rfl⟩ := transcript_done_iff.1 ended
        exact later
  | ask effect rest ih =>
      apply Iff.intro
      · intro ran
        obtain ⟨answer, others, rfl, later⟩ := transcript_ask_iff.1 ran
        obtain ⟨first, second, middle, rfl, one, two⟩ := (ih answer).1 later
        exact ⟨_ :: first, second, middle, rfl, .ask one, two⟩
      · rintro ⟨first, second, middle, rfl, one, two⟩
        obtain ⟨answer, others, rfl, later⟩ := transcript_ask_iff.1 one
        exact .ask ((ih answer).2 ⟨others, second, middle, rfl, later, two⟩)

/-- One question, and then a program that depends on the answer. -/
theorem transcript_perform_bind_iff {effect : Effect} {α : Type}
    {next : Answer effect → Program Effect Answer α} {result : α} :
    Transcript (perform effect >>= next) asked result ↔
      ∃ answer rest, asked = ⟨effect, answer⟩ :: rest ∧ Transcript (next answer) rest result :=
  transcript_ask_iff

end Inversion

/-- Run a program in surroundings that choose each answer by all that was asked and answered
before, and keep the record. -/
def record {α : Type}
    (respond : List (Exchange Effect Answer) → (effect : Effect) → Answer effect)
    (program : Program Effect Answer α) (past : List (Exchange Effect Answer)) :
    α × List (Exchange Effect Answer) :=
  program.run
    (fun effect past => (respond past effect, past ++ [⟨effect, respond past effect⟩])) past

/-- The record of a run grows by a transcript. -/
theorem exists_transcript_record {α : Type}
    (respond : List (Exchange Effect Answer) → (effect : Effect) → Answer effect)
    (program : Program Effect Answer α) (past : List (Exchange Effect Answer)) :
    ∃ result asked, program.record respond past = (result, past ++ asked) ∧
      Transcript program asked result := by
  induction program generalizing past with
  | done result => exact ⟨result, [], by rw [List.append_nil]; rfl, .done result⟩
  | ask effect next ih =>
      obtain ⟨result, asked, ran, later⟩ :=
        ih (respond past effect) (past ++ [⟨effect, respond past effect⟩])
      rw [List.append_assoc] at ran
      exact ⟨result, _, ran, .ask later⟩

/-- Whatever it is answered, the program asks for allowed effects only. -/
def Confined (allowed : Effect → Prop) : Program Effect Answer α → Prop
  | .done _ => True
  | .ask effect next => allowed effect ∧ ∀ answer, Confined allowed (next answer)

section Confinement

variable {allowed : Effect → Prop} {program : Program Effect Answer α}

theorem Confined.bind {next : α → Program Effect Answer β} (first : program.Confined allowed)
    (second : ∀ middle, (next middle).Confined allowed) : (program >>= next).Confined allowed := by
  induction program with
  | done result => exact second result
  | ask effect rest ih => exact ⟨first.1, fun answer => ih answer (first.2 answer)⟩

theorem Confined.mono {more : Effect → Prop} (confined : program.Confined allowed)
    (weaken : ∀ effect, allowed effect → more effect) : program.Confined more := by
  induction program with
  | done result => trivial
  | ask effect rest ih =>
      exact ⟨weaken effect confined.1, fun answer => ih answer (confined.2 answer)⟩

/-- A confined program leaves a transcript of allowed effects. -/
theorem Confined.forall_mem (confined : program.Confined allowed)
    {asked : List (Exchange Effect Answer)} {result : α}
    (ran : Transcript program asked result) : ∀ exchange ∈ asked, allowed exchange.1 := by
  induction ran with
  | done result => exact fun _ member => absurd member List.not_mem_nil
  | ask later ih => exact List.forall_mem_cons.2 ⟨confined.1, ih (confined.2 _)⟩

/-- A confined program comes to the same in two surroundings that answer what is allowed alike. -/
theorem Confined.run_related {σ τ : Type u}
    {handle : (effect : Effect) → σ → Answer effect × σ}
    {handle' : (effect : Effect) → τ → Answer effect × τ} (confined : program.Confined allowed)
    (Related : σ → τ → Prop)
    (alike : ∀ effect, allowed effect → ∀ state other, Related state other →
      (handle effect state).1 = (handle' effect other).1 ∧
        Related (handle effect state).2 (handle' effect other).2)
    {state : σ} {other : τ} (related : Related state other) :
    (program.run handle state).1 = (program.run handle' other).1 ∧
      Related (program.run handle state).2 (program.run handle' other).2 := by
  induction program generalizing state other with
  | done result => exact ⟨rfl, related⟩
  | ask effect next ih =>
      obtain ⟨same, later⟩ := alike effect confined.1 state other related
      have rest := ih (handle effect state).1 (confined.2 _) later
      rw [same] at rest
      simp only [Program.run]
      rw [same]
      exact rest

end Confinement

/-- Whatever it is answered, the program ends in such a result. -/
def Ensures (post : α → Prop) : Program Effect Answer α → Prop
  | .done result => post result
  | .ask _ next => ∀ answer, Ensures post (next answer)

section Results

variable {program : Program Effect Answer α} {post : α → Prop}

/-- It is enough to follow the second of two programs, if nothing is known of the first. -/
theorem Ensures.bind {next : α → Program Effect Answer β} {post : β → Prop}
    (each : ∀ middle, (next middle).Ensures post) : (program >>= next).Ensures post := by
  induction program with
  | done result => exact each result
  | ask effect rest ih => exact fun answer => ih answer

/-- Two programs, the second of which relies on the result of the first. -/
theorem Ensures.bind_of {next : α → Program Effect Answer β} {post' : β → Prop}
    (first : program.Ensures post) (second : ∀ middle, post middle → (next middle).Ensures post') :
    (program >>= next).Ensures post' := by
  induction program with
  | done result => exact second result first
  | ask effect rest ih => exact fun answer => ih answer (first answer)

theorem Ensures.of_transcript (ensures : program.Ensures post)
    {asked : List (Exchange Effect Answer)} {result : α}
    (ran : Transcript program asked result) : post result := by
  induction ran with
  | done result => exact ensures
  | ask later ih => exact ih (ensures _)

end Results

end Program

end DnsReconcile
