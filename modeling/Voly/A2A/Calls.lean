/-
Shadow plan gates against no gates: the calls of both runs agree as long as no
role starts after a prior role fell.
-/
import Voly.A2A.Launch

namespace Voly.A2A

open Python Interaction StepStatus

section Waves

variable {config : RunConfig} {cfg : PlanConfig} {roles : List Assignment}
  {base : Plan} {env : Surround} {placed flight : List Int}
  {s t : LocalRun} {log : List RoleExchange} {a b : Assignment}

/-- One prepared role with its reply on both sides. -/
def TwinReply (roles : List Assignment) (item item' : Prepared × ChatReply) :
    Prop :=
  item'.2 = item.2 ∧ Twin roles item.1 item'.1

def AllReplied (items : List (Prepared × ChatReply))
    (log : List RoleExchange) : Prop :=
  ∀ item ∈ items, Replied item.1.assignment.idx item.2 log

/-- A write that looks at the core and leaves the role and its gates. -/
structure Blind (f : Assignment → Assignment) : Prop where
  core : ∀ a, (f a).core = (f a.core).core
  idx : ∀ a, (f a).idx = a.idx
  role : ∀ a, (f a).role = a.role
  planStatus : ∀ a, (f a).planStatus = a.planStatus

theorem Blind.comp {f g : Assignment → Assignment} (hf : Blind f)
    (hg : Blind g) : Blind fun a => f (g a) where
  core a := by rw [hf.core, hg.core, ← hf.core]
  idx a := (hf.idx _).trans (hg.idx a)
  role a := (hf.role _).trans (hg.role a)
  planStatus a := (hf.planStatus _).trans (hg.planStatus a)

theorem Blind.same {f : Assignment → Assignment} (hf : Blind f)
    (h : b.core = a.core) : (f b).core = (f a).core := by
  rw [hf.core, h, ← hf.core]

theorem Blind.clear {f : Assignment → Assignment} (hf : Blind f)
    (h : a.Clear) : (f a).Clear := by
  unfold Assignment.Clear
  rw [hf.planStatus]
  exact h

theorem blind_served (reply : ChatReply) : Blind (Assignment.served reply) := by
  refine ⟨fun a => ?_, fun a => ?_, fun a => ?_, fun a => ?_⟩ <;>
    unfold Assignment.served <;> split <;> rfl

theorem Twin.served {p p' : Prepared} (h : Twin roles p p')
    (reply : ChatReply) :
    Twin roles (p.served reply) (p'.served reply) := by
  have hblind := blind_served reply
  obtain ⟨role, hmem, hidx, hrole⟩ := h.role
  exact ⟨hblind.same h.core, h.user, h.system, h.gitBefore,
    hblind.clear h.clear, hblind.clear h.clear', role, hmem,
    hidx.trans (hblind.idx _).symm, hrole.trans (hblind.role _).symm⟩

theorem Twin.chatCall {p p' : Prepared} (h : Twin roles p p') :
    chatCall config p' = chatCall config p := by
  unfold A2A.chatCall
  rw [h.user, h.system, of_core h.core Assignment.idx fun _ => rfl,
    of_core h.core Assignment.role fun _ => rfl,
    of_core h.core Assignment.tier fun _ => rfl,
    of_core h.core Assignment.model fun _ => rfl,
    of_core h.core Assignment.provider fun _ => rfl]

theorem chatCalls_eq {ps ps' : List Prepared}
    (h : List.Forall₂ (Twin roles) ps ps') :
    ps'.map (chatCall config) = ps.map (chatCall config) := by
  induction h with
  | nil => rfl
  | cons hp _ ih => rw [List.map_cons, List.map_cons, hp.chatCall, ih]

theorem takeReplies_twin (replies : Nat → ChatReply) {ps ps' : List Prepared}
    (h : List.Forall₂ (Twin roles) ps ps') (i : Nat) :
    List.Forall₂ (TwinReply roles) (takeReplies replies i ps)
      (takeReplies replies i ps') := by
  induction h generalizing i with
  | nil => exact List.Forall₂.nil
  | cons hp _ ih => exact List.Forall₂.cons ⟨rfl, hp.served _⟩ (ih (i + 1))

theorem takeReplies_idx (replies : Nat → ChatReply) (ps : List Prepared)
    (i : Nat) :
    (takeReplies replies i ps).map (fun item => item.1.assignment.idx) =
      ps.map fun p => p.assignment.idx := by
  induction ps generalizing i with
  | nil => rfl
  | cons p rest ih =>
      rw [takeReplies, List.map_cons, List.map_cons, ih]
      exact congrArg (· :: _) ((blind_served _).idx _)

theorem takeReplies_replied (replies : Nat → ChatReply)
    (ps : List Prepared) (before : List ChatCall) :
    ∀ item ∈ takeReplies replies before.length ps,
      RoleExchange.Replies item.1.assignment.idx item.2
        ⟨.chat (before ++ ps.map (chatCall config)), replies⟩ := by
  induction ps generalizing before with
  | nil => exact fun item hitem => nomatch hitem
  | cons p rest ih =>
      intro item hitem
      rw [takeReplies] at hitem
      rcases List.mem_cons.mp hitem with rfl | hrest
      · refine ⟨before.length, chatCall config p, by simp, ?_, rfl⟩
        exact ((blind_served _).idx _).symm
      · have hlater := ih (before ++ [chatCall config p]) item (by
          rw [List.length_append]
          exact hrest)
        rw [List.append_assoc] at hlater
        exact hlater

theorem mem_kept (exchange : RoleExchange) (log : List RoleExchange)
    (op : RoleOp) (h : exchange ∈ log) : exchange ∈ (env.answer log op).2 :=
  answer_subset env log op h

theorem ask_coupled (op : RoleOp)
    (hlog : ∀ log, (env.answer log op).2 =
      log ++ [⟨op, (env.answer log op).1⟩]) :
    Coupled env.answer (Sound config cfg roles)
      (Mirrors roles base placed flight)
      (fun reply reply' s t log => reply' = reply ∧ ⟨op, reply⟩ ∈ log ∧
        Mirrors roles base placed flight s t log)
      (Script.ask op : RoleScript (RoleReply op))
      (Script.ask op : RoleScript (RoleReply op)) := by
  apply Coupled.ask
  intro s t log h _
  refine ⟨rfl, ?_, h.mono (answer_subset env log op)⟩
  rw [hlog]
  exact List.mem_append_right _ (List.mem_singleton.mpr rfl)

/-- What both sides hold once the chat roles of a wave were answered. -/
def Answered (roles : List Assignment) (base : Plan)
    (placed flight : List Int) (ps : List Prepared)
    (items items' : List (Prepared × ChatReply)) (s t : LocalRun)
    (log : List RoleExchange) : Prop :=
  List.Forall₂ (TwinReply roles) items items' ∧
    items.map (fun item => item.1.assignment.idx) =
      ps.map (fun p => p.assignment.idx) ∧
    AllReplied items log ∧ Mirrors roles base placed flight s t log

theorem chatInTurn_coupled {ps ps' : List Prepared}
    (h : List.Forall₂ (Twin roles) ps ps') :
    Coupled env.answer (Sound config cfg roles)
      (Mirrors roles base placed flight)
      (Answered roles base placed flight ps)
      (chatInTurn config ps) (chatInTurn config ps') := by
  induction h with
  | nil =>
      exact Coupled.ret fun s t log h _ =>
        ⟨List.Forall₂.nil, rfl, (fun item hitem => nomatch hitem), h⟩
  | @cons p p' rest rest' hp _ ih =>
      unfold chatInTurn
      rw [hp.chatCall]
      apply Coupled.seq sound_back (ask_coupled _ fun _ => rfl)
      intro replies replies'
      apply Coupled.of_pre fun s t log h => h.1
      rintro rfl
      apply Coupled.seq sound_back
        ((ih.frame (mem_kept ⟨.chat [chatCall config p], replies'⟩)).mono
          (fun s t log h => ⟨h.2.2, h.2.1⟩) fun _ _ _ _ _ h => h)
      intro items items'
      apply Coupled.ret
      rintro s t log ⟨⟨htwins, hidx, hreplied, h⟩, hmem⟩ _
      refine ⟨List.rel_append (takeReplies_twin replies'
        (List.Forall₂.cons hp List.Forall₂.nil) 0) htwins, ?_, ?_, h⟩
      · rw [List.map_append, takeReplies_idx, hidx]
        rfl
      · intro item hitem
        rcases List.mem_append.mp hitem with hown | hother
        · exact ⟨_, hmem, takeReplies_replied replies' [p] [] item hown⟩
        · exact hreplied item hother

theorem chatCalls_coupled {ps ps' : List Prepared}
    (h : List.Forall₂ (Twin roles) ps ps') :
    Coupled env.answer (Sound config cfg roles)
      (Mirrors roles base placed flight)
      (Answered roles base placed flight ps)
      (chatCalls config ps) (chatCalls config ps') := by
  unfold chatCalls
  rw [h.length_eq.symm]
  split
  · rw [chatCalls_eq h]
    apply Coupled.seq sound_back (ask_coupled _ fun _ => rfl)
    intro replies replies'
    apply Coupled.of_pre fun s t log h => h.1
    rintro rfl
    apply Coupled.ret
    rintro s t log ⟨_, hmem, hm⟩ _
    refine ⟨takeReplies_twin replies' h 0, takeReplies_idx .., ?_, hm⟩
    intro item hitem
    exact ⟨_, hmem, takeReplies_replied replies' ps [] item hitem⟩
  · exact chatInTurn_coupled h

theorem call_coupled {A : Type} (x : HelperScript A) :
    Coupled env.answer (Sound config cfg roles)
      (Mirrors roles base placed flight)
      (fun r r' s t log => r' = r ∧ Mirrors roles base placed flight s t log)
      (Script.call x : RoleScript A) (Script.call x : RoleScript A) := by
  apply Coupled.call
  intro s t log log' r h heval _
  have hsub := eval_subset env (x ()) log
  rw [show ((x ()).eval env.answer log).2 = log' from congrArg Prod.snd heval]
    at hsub
  exact ⟨rfl, h.mono hsub⟩

theorem blind_recordExecutor (reply : ExecutorReply) :
    Blind (Assignment.recordExecutor reply) := by
  rcases reply with _ | ⟨_⟩ | ⟨_⟩ <;>
    exact ⟨fun _ => rfl, fun _ => rfl, fun _ => rfl, fun _ => rfl⟩

theorem blind_keepDelta (delta : List String) :
    Blind (Assignment.keepDelta delta) := by
  refine ⟨fun a => ?_, fun a => ?_, fun a => ?_, fun a => ?_⟩ <;>
    unfold Assignment.keepDelta <;> split <;> rfl

theorem blind_requireFiles : Blind (Assignment.requireFiles config) := by
  refine ⟨fun a => ?_, fun a => ?_, fun a => ?_, fun a => ?_⟩
  · unfold Assignment.requireFiles
    by_cases h : config.requiresCodeGen ∧ a.ok ∧ a.filesTouched = []
    · rw [if_pos h, if_pos (by exact h)]
      rfl
    · rw [if_neg h, if_neg (by exact h)]
      rfl
  all_goals
    unfold Assignment.requireFiles
    split <;> rfl

theorem blind_afterExecutor (config : RunConfig) (reply : ExecutorReply)
    (delta : List String) :
    Blind (Assignment.afterExecutor config reply delta) := by
  have hkeep := (blind_keepDelta delta).comp (blind_recordExecutor reply)
  unfold Assignment.afterExecutor
  cases executorRaised reply with
  | true => exact hkeep
  | false => exact blind_requireFiles.comp hkeep

theorem Twin.executorCall {p p' : Prepared} (h : Twin roles p p') :
    executorCall config p' = executorCall config p := by
  unfold A2A.executorCall
  rw [h.user, h.system, of_core h.core Assignment.idx fun _ => rfl,
    of_core h.core Assignment.role fun _ => rfl,
    of_core h.core Assignment.executor fun _ => rfl]

theorem conclude_coupled (henv : env.Calm)
    (hbase : Mirrored config cfg roles base) {role : Assignment}
    (hrole : role ∈ roles) (hidx : role.idx = a.idx)
    (hname : role.role = a.role) (hab : b.core = a.core) (ha : a.Clear)
    (hb : b.Clear) (execOk execOk' : Bool) (gitBefore : Dict String) :
    Coupled env.answer (Sound config cfg roles)
      (fun s t log => Mirrors roles base placed (a.idx :: flight) s t log ∧
        (t.gatesOn = true → Verdict config cfg role a log execOk'))
      (fun _ _ s t log => Mirrors roles base placed flight s t log)
      (conclude config a execOk gitBefore)
      (conclude config b execOk' gitBefore) := by
  apply Coupled.both sound_back
  rintro s t log ⟨h, hverdict⟩ _
  rw [← hidx] at h
  obtain ⟨t', log', hx, hy, hm⟩ := conclude_mirrors henv hbase hrole hidx
    hname hab ha hb execOk gitBefore h hverdict
  exact ⟨_, _, _, _, _, hx, hy, hm⟩

theorem executor_verdict (role : Assignment)
    (h : Executed a.idx log) : Verdict config cfg role a log a.ok := by
  cases hok : a.ok with
  | true => exact Verdict.through (Or.inl hok)
  | false => exact Verdict.fell hok (Or.inl h)

theorem runExecutor_coupled (henv : env.Calm)
    (hbase : Mirrored config cfg roles base) {p p' : Prepared}
    (hp : Twin roles p p') :
    Coupled env.answer (Sound config cfg roles)
      (Mirrors roles base placed (p.assignment.idx :: flight))
      (fun _ _ s t log => Mirrors roles base placed flight s t log)
      (runExecutor config p) (runExecutor config p') := by
  obtain ⟨role, hrole, hidx, hname⟩ := hp.role
  unfold runExecutor
  rw [hp.gitBefore, hp.executorCall]
  apply Coupled.seq sound_back (call_coupled _)
  intro start start'
  apply Coupled.of_pre fun s t log h => h.1
  rintro rfl
  obtain ⟨gitBefore, fingerprints, wall⟩ := start'
  dsimp only
  apply Coupled.seq sound_back
    ((ask_coupled _ fun _ => rfl).mono (fun s t log h => h.2)
      fun _ _ _ _ _ h => h)
  intro reply reply'
  apply Coupled.of_pre fun s t log h => h.1
  rintro rfl
  have hblind := blind_recordExecutor reply'
  have hfiles : (p'.assignment.recordExecutor reply').filesTouched =
      (p.assignment.recordExecutor reply').filesTouched :=
    of_core (hblind.same hp.core) Assignment.filesTouched fun _ => rfl
  rw [hfiles]
  apply Coupled.seq sound_back
    (((call_coupled _).frame
      (mem_kept ⟨.execute (executorCall config p), reply'⟩)).mono
        (fun s t log h => ⟨h.2.2, h.2.1⟩) fun _ _ _ _ _ h => h)
  intro delta delta'
  apply Coupled.of_pre fun s t log h => h.1.1
  rintro rfl
  have hafter := blind_afterExecutor config reply' delta'
  have hcore := hafter.same hp.core
  have hok : (p'.assignment.afterExecutor config reply' delta').ok =
      (p.assignment.afterExecutor config reply' delta').ok :=
    of_core hcore Assignment.ok fun _ => rfl
  rw [hok]
  apply (conclude_coupled henv hbase hrole (hidx.trans (hafter.idx _).symm)
    (hname.trans (hafter.role _).symm) hcore (hafter.clear hp.clear)
    (hafter.clear hp.clear') _ _ gitBefore).mono
  · rintro s t log ⟨⟨_, h⟩, hmem⟩
    rw [hafter.idx]
    refine ⟨h, fun _ => executor_verdict role ?_⟩
    rw [hafter.idx]
    exact ⟨_, hmem, executorCall config p, rfl, rfl⟩
  · exact fun _ _ _ _ _ h => h

theorem runExecutors_coupled (henv : env.Calm)
    (hbase : Mirrored config cfg roles base) {ps ps' : List Prepared}
    (hps : List.Forall₂ (Twin roles) ps ps') :
    Coupled env.answer (Sound config cfg roles)
      (Mirrors roles base placed
        (ps.map (fun p => p.assignment.idx) ++ flight))
      (fun _ _ s t log => Mirrors roles base placed flight s t log)
      (runExecutors config ps) (runExecutors config ps') := by
  induction hps with
  | nil => exact Coupled.ret fun s t log h _ => h
  | cons hp _ ih =>
      unfold runExecutors
      apply Coupled.seq sound_back (runExecutor_coupled henv hbase hp)
      intro _ _
      exact ih

theorem blind_recordChat (reply : ChatReply) :
    Blind (Assignment.recordChat reply) := by
  cases reply with
  | error message => exact ⟨fun _ => rfl, fun _ => rfl, fun _ => rfl,
      fun _ => rfl⟩
  | ok response =>
      refine ⟨fun a => ?_, fun a => ?_, fun a => ?_, fun a => ?_⟩ <;>
        simp only [Assignment.recordChat] <;> split_ifs <;> rfl

theorem noteReply_twin (reply : ChatReply) (hab : b.core = a.core) :
    noteReply config reply (b.recordChat reply) =
      noteReply config reply (a.recordChat reply) := by
  have hcore := (blind_recordChat reply).same hab
  have herror : chatFailed reply = true →
      (b.recordChat reply).error = (a.recordChat reply).error := by
    cases reply with
    | error message => exact fun _ => rfl
    | ok response =>
        intro hbad
        have herror : response.error ≠ "" := by simpa [chatFailed] using hbad
        simp only [Assignment.recordChat, if_pos herror]
  unfold noteReply
  rw [of_core hcore Assignment.provider fun _ => rfl,
    of_core hcore Assignment.content fun _ => rfl,
    of_core hcore Assignment.cacheHit fun _ => rfl,
    of_core hcore Assignment.role fun _ => rfl,
    of_core hcore Assignment.description fun _ => rfl,
    of_core hcore Assignment.model fun _ => rfl]
  split
  · next hbad => rw [herror hbad]
  · rfl

/-- A chat role without a failed call went through; an empty reply only where
no checks are to pass. -/
theorem chat_verdict {role : Assignment} {reply : ChatReply}
    (hs : Sound config cfg roles log) (hrole : role ∈ roles)
    (hidx : role.idx = a.idx) (h : Replied a.idx reply log) :
    Verdict config cfg role (a.recordChat reply) log (!chatFailed reply) := by
  have hsame : (a.recordChat reply).idx = a.idx := (blind_recordChat reply).idx a
  cases hbad : chatFailed reply with
  | true =>
      refine Verdict.fell ?_ (Or.inr ⟨reply, by rw [hsame]; exact h, hbad⟩)
      cases reply with
      | error message => rfl
      | ok response =>
          have herror : response.error ≠ "" := by
            simpa [chatFailed] using hbad
          simp only [Assignment.recordChat, if_pos herror]
  | false =>
      apply Verdict.through
      cases reply with
      | error message => cases hbad
      | ok response =>
          have herror : response.error = "" := by
            simpa [chatFailed] using hbad
          by_cases hempty : strip response.content = ""
          · have hreply : EmptyReply (.ok response) := ⟨herror, hempty⟩
            rw [← hidx] at h
            exact Or.inr (hs.nonempty role hrole _ h hreply)
          · left
            simp only [Assignment.recordChat, herror, ne_eq, not_true_eq_false,
              if_false, if_neg hempty]

theorem finalizeChat_coupled (henv : env.Calm)
    (hbase : Mirrored config cfg roles base) {p p' : Prepared}
    (hp : Twin roles p p') (reply : ChatReply) :
    Coupled env.answer (Sound config cfg roles)
      (fun s t log =>
        Mirrors roles base placed (p.assignment.idx :: flight) s t log ∧
          Replied p.assignment.idx reply log)
      (fun r r' s t log => r' = r ∧
        Mirrors roles base placed flight s t log)
      (finalizeChat config p reply) (finalizeChat config p' reply) := by
  obtain ⟨role, hrole, hidx, hname⟩ := hp.role
  have hblind := blind_recordChat reply
  unfold finalizeChat
  dsimp only
  rw [noteReply_twin reply hp.core]
  apply Coupled.seq sound_back
    ((call_coupled _).frame fun log op h =>
      Replied.mono h (answer_subset env log op))
  intro _ _
  apply Coupled.seq sound_back (Q := fun run run' s t log => run' = t ∧
      Mirrors roles base placed (p.assignment.idx :: flight) s t log ∧
      Verdict config cfg role (p.assignment.recordChat reply) log
        (!chatFailed reply))
    (Coupled.read fun s t log h hs => ⟨rfl, h.1.2,
      chat_verdict hs hrole hidx h.2⟩)
  intro run run'
  rw [hp.gitBefore]
  apply Coupled.seq sound_back
    ((conclude_coupled henv hbase hrole (hidx.trans (hblind.idx _).symm)
      (hname.trans (hblind.role _).symm) (hblind.same hp.core)
      (hblind.clear hp.clear) (hblind.clear hp.clear') _ _ p.gitBefore).mono
        ?_ fun _ _ _ _ _ h => h)
  · intro _ _
    cases reply with
    | error message => exact Coupled.ret fun s t log h _ => ⟨rfl, h⟩
    | ok response => exact Coupled.ret fun s t log h _ => ⟨rfl, h⟩
  · rintro s t log ⟨rfl, h, hverdict⟩
    rw [hblind.idx]
    refine ⟨h, fun hon => ?_⟩
    rw [if_pos hon]
    exact hverdict

theorem finalizeChats_coupled (henv : env.Calm)
    (hbase : Mirrored config cfg roles base)
    {items items' : List (Prepared × ChatReply)}
    (h : List.Forall₂ (TwinReply roles) items items') :
    Coupled env.answer (Sound config cfg roles)
      (fun s t log =>
        Mirrors roles base placed
          (items.map (fun item => item.1.assignment.idx) ++ flight) s t log ∧
          AllReplied items log)
      (fun r r' s t log => r' = r ∧
        Mirrors roles base placed flight s t log)
      (finalizeChats config items) (finalizeChats config items') := by
  induction h with
  | nil => exact Coupled.ret fun s t log h _ => ⟨rfl, h.1⟩
  | @cons item item' rest rest' hitem _ ih =>
      obtain ⟨p, reply⟩ := item
      obtain ⟨p', reply'⟩ := item'
      obtain ⟨heq, hp⟩ := hitem
      obtain rfl : reply' = reply := heq
      unfold finalizeChats
      have hkeep : ∀ log op, AllReplied rest log →
          AllReplied rest (env.answer log op).2 :=
        fun log op hall item hitem =>
          (hall item hitem).mono (answer_subset env log op)
      apply Coupled.seq sound_back
        (((finalizeChat_coupled henv hbase hp reply').frame hkeep).mono
          (fun s t log h => ⟨⟨h.1, h.2 _ List.mem_cons_self⟩,
            fun item hitem => h.2 item (List.mem_cons_of_mem _ hitem)⟩)
          fun _ _ _ _ _ h => h)
      intro stop stop'
      apply Coupled.of_pre fun s t log h => h.1.1
      rintro rfl
      apply Coupled.seq sound_back
        (ih.mono (fun s t log h => ⟨h.1.2, h.2⟩) fun _ _ _ _ _ h => h)
      intro later later'
      apply Coupled.of_pre fun s t log h => h.1
      rintro rfl
      exact Coupled.ret fun s t log h _ => ⟨rfl, h.2⟩

end Waves

end Voly.A2A
