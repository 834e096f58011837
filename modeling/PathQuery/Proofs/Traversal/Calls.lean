import Mathlib.Data.Int.Notation
import Mathlib.Data.Nat.Notation
import PathQuery.Traversal.Next

/-!
# The calls of a session

Whatever a traversal does to a database it does by calls, and the database keeps a record of each
with its outcome. What the parts of a traversal do is therefore told by the records they add: a
step of a session *emits* records, and a few rules say what a sequence of steps emits. Any call may
fail, and the rules hold for all answers; what a step fails with is what the database has said when
it *refused* one of them.

The records follow a grammar. Temporary tables are created and filled one after the other, up to
the first that fails (`Loads`). A statement is prepared, queried, read and closed, in this order,
and each of these may be the last that succeeds (`Life`). One statement with its tables makes an
`Episode`, which ends by dropping every table that was created.
-/

namespace PathQuery

/-! ## Records -/

/-- The calls of a session so far, in order. -/
def Session.calls (s : Session) : List CallRecord := s.database.history.toList

/-- What a call does to the number of open statements. -/
def CallRecord.effect (r : CallRecord) : ℤ :=
  match r.call, r.failure with
  | .prepare _, none => 1
  | .closeStatement, _ => -1
  | _, _ => 0

/-- How many statements calls have left open. -/
def openCount : List CallRecord → ℤ
  | [] => 0
  | r :: rs => r.effect + openCount rs

@[simp]
theorem openCount_append (rs rs' : List CallRecord) :
    openCount (rs ++ rs') = openCount rs + openCount rs' := by
  induction rs with
  | nil => rw [List.nil_append, openCount, Int.zero_add]
  | cons r rs ih => rw [List.cons_append, openCount, openCount, ih, Int.add_assoc]

/-- Whether a call may open or close a statement. -/
def Call.opensOrCloses : Call → Bool
  | .prepare _ | .closeStatement => true
  | _ => false

theorem CallRecord.effect_eq_zero {r : CallRecord} (h : r.call.opensOrCloses = false) :
    r.effect = 0 := by
  obtain ⟨call, ch, failure⟩ := r
  cases call with
  | prepare sql => cases h
  | closeStatement => cases h
  | _ => rfl

namespace Session

/-- `s'` is `s` after some more calls by way of a channel. -/
structure Extends (s : Session) (ch : Channel) (rs : List CallRecord) (s' : Session) : Prop where
  /-- The calls are recorded. -/
  calls : s'.calls = s.calls ++ rs
  /-- The compiler has not been used. -/
  compiling : s'.compiling = s.compiling
  /-- The script is the same. -/
  script : s'.database.script = s.database.script
  /-- No connection has been taken or given back. -/
  lent : s'.database.lent = s.database.lent
  /-- The gauge has counted the statements. -/
  gauge : s'.openStatements = s.openStatements + openCount rs
  /-- The calls are made on the connection of the channel. -/
  channels : ∀ r ∈ rs, r.channel.connection = ch.connection
  /-- The answers are those of the script, unless the context of the channel has been canceled. -/
  answered : ch.context ≠ .given true →
    ∀ r ∈ rs, ∃ n, r.failure = s.database.script.failure? r.call.kind n

variable {ch : Channel}

theorem Extends.refl (s : Session) : s.Extends ch [] s where
  calls := (List.append_nil _).symm
  compiling := rfl
  script := rfl
  lent := rfl
  gauge := (Int.add_zero _).symm
  channels := List.forall_mem_nil _
  answered _ := List.forall_mem_nil _

theorem Extends.trans {s s' s'' : Session} {rs rs' : List CallRecord} (h : s.Extends ch rs s')
    (h' : s'.Extends ch rs' s'') : s.Extends ch (rs ++ rs') s'' where
  calls := by rw [h'.calls, h.calls, List.append_assoc]
  compiling := h'.compiling.trans h.compiling
  script := h'.script.trans h.script
  lent := h'.lent.trans h.lent
  gauge := by rw [h'.gauge, h.gauge, openCount_append, Int.add_assoc]
  channels := List.forall_mem_append.mpr ⟨h.channels, h'.channels⟩
  answered hlive := by
    refine List.forall_mem_append.mpr ⟨h.answered hlive, fun r hr ↦ ?_⟩
    obtain ⟨n, hn⟩ := h'.answered hlive r hr
    exact ⟨n, by rw [hn, h.script]⟩

theorem Extends.notify {s s' : Session} {rs : List CallRecord} (h : s.Extends ch rs s')
    (n : Notice) : s.Extends ch rs (SessionM.notify n s').2 :=
  ⟨h.calls, h.compiling, h.script, h.lent, h.gauge, h.channels, h.answered⟩

/-- A call extends the session by its record, whether its context is that of the channel or has been
detached from it, if the gauge is moved with it. -/
theorem extends_call (s : Session) {ch' : Channel} (h : ch' = ch ∨ ch' = ch.detached) {c : Call}
    {failure : Option String} {s' : Session} (hcall : SessionM.call ch' c s = (failure, s')) :
    s.Extends ch [⟨c, ch', failure⟩]
      (SessionM.gauge (CallRecord.effect ⟨c, ch', failure⟩) s').2 where
  calls := by
    obtain ⟨rfl, rfl⟩ := Prod.mk.inj hcall
    exact Array.toList_push
  compiling := by cases hcall; rfl
  script := by cases hcall; rfl
  lent := by cases hcall; rfl
  gauge := by
    cases hcall
    rw [openCount, openCount, Int.add_zero]
    rfl
  channels := by
    rw [List.forall_mem_singleton]
    rcases h with rfl | rfl <;> rfl
  answered hlive := by
    rw [List.forall_mem_singleton]
    refine ⟨s.database.count c.kind + 1, ?_⟩
    have hcontext : ch'.context ≠ .given true := by
      rcases h with rfl | rfl
      · exact hlive
      · exact CallContext.noConfusion
    cases hcall
    simp [hcontext]

end Session

namespace SessionM

variable {α β : Type} {ch : Channel}

theorem gauge_zero (s : Session) : (gauge 0 s).2 = s := by
  rw [gauge, Int.add_zero]

/-- Whatever is answered, a step adds records of which `Q` holds, together with its answer. -/
def Emits (ch : Channel) (m : SessionM α) (Q : α → List CallRecord → Prop) : Prop :=
  ∀ s, ∃ rs, s.Extends ch rs (m s).2 ∧ Q (m s).1 rs

namespace Emits

theorem mono {m : SessionM α} {Q Q' : α → List CallRecord → Prop} (hm : m.Emits ch Q)
    (hQ : ∀ a rs, Q a rs → Q' a rs) : m.Emits ch Q' := by
  intro s
  obtain ⟨rs, hs, h⟩ := hm s
  exact ⟨rs, hs, hQ _ _ h⟩

theorem pure {Q : α → List CallRecord → Prop} {a : α} (h : Q a []) :
    (pure a : SessionM α).Emits ch Q :=
  fun s ↦ ⟨[], .refl s, h⟩

/-- What comes second emits its records after those of what comes first. -/
theorem bind {m : SessionM α} {f : α → SessionM β} {Q : α → List CallRecord → Prop}
    {Q' : β → List CallRecord → Prop} (hm : m.Emits ch Q)
    (hf : ∀ a rs, Q a rs → (f a).Emits ch fun b rs' ↦ Q' b (rs ++ rs')) :
    (m >>= f).Emits ch Q' := by
  intro s
  obtain ⟨rs, hs, h⟩ := hm s
  obtain ⟨rs', hs', h'⟩ := hf _ rs h (m s).2
  exact ⟨rs ++ rs', hs.trans hs', h'⟩

/-- A call that neither opens nor closes a statement leaves the gauge as it is. -/
theorem call_over {ch' : Channel} (h : ch' = ch ∨ ch' = ch.detached) {c : Call}
    (hc : c.opensOrCloses = false) :
    (call ch' c).Emits ch fun failure rs ↦ rs = [⟨c, ch', failure⟩] := by
  intro s
  have hextends := s.extends_call h (Eq.refl (SessionM.call ch' c s))
  rw [CallRecord.effect_eq_zero hc, gauge_zero] at hextends
  exact ⟨_, hextends, rfl⟩

theorem call {c : Call} (hc : c.opensOrCloses = false) :
    (call ch c).Emits ch fun failure rs ↦ rs = [⟨c, ch, failure⟩] :=
  call_over (.inl rfl) hc

/-- The gauge goes up with a statement that has been prepared. -/
theorem prepare (sql : String) :
    (prepare ch sql).Emits ch fun failure rs ↦ rs = [⟨.prepare sql, ch, failure⟩] := by
  intro s
  simp only [SessionM.prepare, Bind.bind, StateT.bind]
  rcases hcall : SessionM.call ch (.prepare sql) s with ⟨_ | e, s₁⟩
  · exact ⟨_, s.extends_call (.inl rfl) hcall, rfl⟩
  · have hextends := s.extends_call (.inl rfl) hcall
    rw [show CallRecord.effect ⟨.prepare sql, ch, some e⟩ = 0 from rfl, gauge_zero] at hextends
    exact ⟨_, hextends, rfl⟩

/-- The gauge goes down with a statement that has been closed, be it in vain. -/
theorem closeStatement :
    (closeStatement ch).Emits ch fun failure rs ↦ rs = [⟨.closeStatement, ch, failure⟩] := by
  intro s
  simp only [SessionM.closeStatement, Bind.bind, StateT.bind]
  rcases hcall : SessionM.call ch .closeStatement s with ⟨failure, s₁⟩
  exact ⟨_, s.extends_call (.inl rfl) hcall, rfl⟩

theorem call_bind {c : Call} {f : Option String → SessionM β} {Q : β → List CallRecord → Prop}
    (hc : c.opensOrCloses = false)
    (hf : ∀ failure, (f failure).Emits ch fun b rs ↦ Q b (⟨c, ch, failure⟩ :: rs)) :
    (SessionM.call ch c >>= f).Emits ch Q := by
  refine (call hc).bind ?_
  rintro failure rs rfl
  exact hf failure

theorem notify_bind {n : Notice} {f : Unit → SessionM β} {Q : β → List CallRecord → Prop}
    (hf : (f ()).Emits ch Q) : (notify n >>= f).Emits ch Q := by
  intro s
  obtain ⟨rs, hs, h⟩ := hf { s with notices := s.notices.push n }
  exact ⟨rs, ⟨hs.calls, hs.compiling, hs.script, hs.lent, hs.gauge, hs.channels, hs.answered⟩, h⟩

theorem pure_bind {a : α} {f : α → SessionM β} {Q : β → List CallRecord → Prop}
    (hf : (f a).Emits ch Q) : (Pure.pure a >>= f).Emits ch Q := hf

theorem get_bind {f : Session → SessionM β} {Q : β → List CallRecord → Prop}
    (hf : ∀ s, (f s).Emits ch Q) : (get >>= f).Emits ch Q :=
  fun s ↦ hf s s

end Emits

end SessionM

/-! ## Failures -/

/-- Nothing has failed. -/
def Smooth (rs : List CallRecord) : Prop := ∀ r ∈ rs, r.failure = none

@[simp]
theorem smooth_nil : Smooth [] := by simp [Smooth]

@[simp]
theorem smooth_cons {r : CallRecord} {rs : List CallRecord} :
    Smooth (r :: rs) ↔ r.failure = none ∧ Smooth rs := List.forall_mem_cons

@[simp]
theorem smooth_append {rs rs' : List CallRecord} :
    Smooth (rs ++ rs') ↔ Smooth rs ∧ Smooth rs' := List.forall_mem_append

/-- The database has refused one of the calls, with these words. -/
def Refused (rs : List CallRecord) (words : String) : Prop := ∃ r ∈ rs, r.failure = some words

@[simp]
theorem refused_cons {r : CallRecord} {rs : List CallRecord} {words : String} :
    Refused (r :: rs) words ↔ r.failure = some words ∨ Refused rs words := by
  simp only [Refused, List.mem_cons, exists_eq_or_imp]

@[simp]
theorem refused_append {rs rs' : List CallRecord} {words : String} :
    Refused (rs ++ rs') words ↔ Refused rs words ∨ Refused rs' words := by
  simp only [Refused, List.mem_append, or_and_right, exists_or]

/-- What is refused by no call has not failed. -/
theorem Smooth.eq_none {rs : List CallRecord} (h : Smooth rs) {failure : Option String}
    (hfailure : ∀ words, failure = some words → Refused rs words) : failure = none := by
  cases failure with
  | none => rfl
  | some words =>
    obtain ⟨r, hr, hrefused⟩ := hfailure words rfl
    rw [h r hr] at hrefused
    cases hrefused

/-- What the database has said, if it is to blame for an error. -/
def ExecutionError.words? : ExecutionError → Option String
  | .create _ words | .load _ words | .transaction words | .prepare words | .query words =>
    some words
  | .noBulkCopy | .unknownColumn _ => none

/-- The error comes from a call that the database has refused. -/
def ExecutionError.Blames (e : ExecutionError) (rs : List CallRecord) : Prop :=
  ∃ words, e.words? = some words ∧ Refused rs words

theorem ExecutionError.Blames.mono {e : ExecutionError} {rs rs' : List CallRecord}
    (h : e.Blames rs) (hsub : rs ⊆ rs') : e.Blames rs' := by
  obtain ⟨words, hwords, r, hr, hrefused⟩ := h
  exact ⟨words, hwords, r, hsub hr, hrefused⟩

/-- Why a statement could not be run: the database has refused a call, or it has no bulk copy, or it
answers a column that is no alias. -/
inductive ExecutionError.Cause (d : Dialect) (rs : List CallRecord) : ExecutionError → Prop
  | refused {e : ExecutionError} (h : e.Blames rs) : Cause d rs e
  | noBulkCopy (h : d.engine = .postgres) : Cause d rs .noBulkCopy
  | unknownColumn {g : Topology} {registry : Registry} {mode : Mode} {names : List String}
      {name : String} (h : RowReader.ofNames g registry mode names = .error name) :
      Cause d rs (.unknownColumn name)

theorem ExecutionError.Cause.mono {d : Dialect} {e : ExecutionError} {rs rs' : List CallRecord}
    (h : e.Cause d rs) (hsub : rs ⊆ rs') : e.Cause d rs' := by
  cases h with
  | refused h => exact .refused (h.mono hsub)
  | noBulkCopy h => exact .noBulkCopy h
  | unknownColumn h => exact .unknownColumn h

theorem Smooth.not_blames {rs : List CallRecord} (h : Smooth rs) (e : ExecutionError) :
    ¬ e.Blames rs := by
  rintro ⟨words, -, r, hr, hrefused⟩
  rw [h r hr] at hrefused
  cases hrefused

/-! ## Connections -/

/-- Attempts to connect. -/
def Connects (rs : List CallRecord) : Prop := ∀ r ∈ rs, ∃ source, r.call = .connect source

/-- What taking a connection comes to. -/
inductive Acquired (s : Session) (context : CallContext) : Except String ℕ × Session → Prop
  /-- There is no connection because the attempt to connect has been refused. -/
  | refused {words : String} {opening : List CallRecord} {s' : Session}
      (hextends : s.Extends { context } opening s')
      (hconnects : Connects opening)
      (hrefused : Refused opening words) : Acquired s context (.error words, s')
  /-- The connection is in use from now on. -/
  | taken {k : ℕ} {opening : List CallRecord} {s₁ s' : Session}
      (hextends : s.Extends { context } opening s₁)
      (hconnects : Connects opening) (hsmooth : Smooth opening)
      (hcalls : s'.calls = s₁.calls ++ [⟨.acquire, ⟨some k, context⟩, none⟩])
      (hlent : s'.database.lent = k :: s₁.database.lent)
      (hscript : s'.database.script = s₁.database.script)
      (hcompiling : s'.compiling = s₁.compiling) (hgauge : s'.openStatements = s₁.openStatements) :
      Acquired s context (.ok k, s')

/-- A connection is taken after at most one call, which connects. -/
theorem acquired (s : Session) (context : CallContext) :
    Acquired s context (SessionM.acquire context s) := by
  rw [SessionM.acquire, Database.acquire, Database.connect]
  by_cases hconnected : s.database.connected
  · rw [if_pos hconnected]
    exact .taken (.refl s) (List.forall_mem_nil _) smooth_nil Array.toList_push rfl rfl rfl rfl
  · rw [if_neg hconnected]
    have hconnect : (SessionM.call { context } (.connect s.database.source)).Emits { context } _ :=
      .call rfl
    obtain ⟨_, hextends, rfl⟩ := hconnect s
    rw [SessionM.call] at hextends
    rcases hcall : s.database.call { context } (.connect s.database.source) with ⟨_ | e, db⟩
    · rw [hcall] at hextends
      have hopened : s.Extends { context } [⟨.connect s.database.source, { context }, none⟩]
          { s with database := { db with connected := true } } :=
        ⟨hextends.calls, hextends.compiling, hextends.script, hextends.lent, hextends.gauge,
          hextends.channels, hextends.answered⟩
      exact .taken hopened (by simp [Connects]) (by simp) Array.toList_push rfl rfl rfl rfl
    · rw [hcall] at hextends
      exact .refused hextends (by simp [Connects]) (by simp)

/-! ## Temporary tables -/

/-- A call that fills a temporary table. -/
inductive Call.Fills (m : MembershipTable) : Call → Prop
  | begin : Fills m .begin
  | insert (values : List Value) : Fills m (.exec (Dialect.insertRows m values.length) values)
  | commit : Fills m .commit
  | rollback : Fills m .rollback

/-- Records of creating and filling temporary tables, and the names of those that were created. -/
inductive Loads : List CallRecord → List String → Prop
  | nil : Loads [] []
  /-- A table that is refused ends the loading. -/
  | refused (m : MembershipTable) (ch : Channel) (e : String) :
      Loads [⟨.exec (Dialect.createTemporary m) [], ch, some e⟩] []
  /-- A table that is created is filled before the next. -/
  | created (m : MembershipTable) (ch : Channel) {fills rest : List CallRecord}
      {names : List String} (filled : ∀ r ∈ fills, r.call.Fills m) (later : Loads rest names) :
      Loads (⟨.exec (Dialect.createTemporary m) [], ch, none⟩ :: fills ++ rest) (m.name :: names)

/-- Records of dropping tables: each of them once, on the same connection, and under a context that
is not canceled with that of the caller. -/
def Drops (d : Dialect) (connection : Option ℕ) (names : List String) (rs : List CallRecord) :
    Prop :=
  rs.map (fun r ↦ (r.call, r.channel)) =
    names.map fun name ↦ (.exec (d.dropTemporary name) [], ⟨connection, .detached⟩)

theorem Drops.map_call {d : Dialect} {connection : Option ℕ} {names : List String}
    {rs : List CallRecord} (h : Drops d connection names rs) :
    rs.map (·.call) = names.map fun name ↦ Call.exec (d.dropTemporary name) [] := by
  have hfirst := congrArg (List.map Prod.fst) h
  rw [List.map_map, List.map_map] at hfirst
  exact hfirst

namespace SessionM

variable {ch : Channel}

theorem emits_insertAll (m : MembershipTable) (batches : List (List Value)) :
    (insertAll ch m batches).Emits ch fun failure rs ↦
      (∀ r ∈ rs, r.call.Fills m) ∧ ∀ words, failure = some words → Refused rs words := by
  induction batches with
  | nil => exact .pure ⟨by simp, by simp⟩
  | cons batch batches ih =>
    refine .call_bind rfl fun failure ↦ ?_
    cases failure with
    | some e => exact .pure ⟨by simp [Call.Fills.insert], by simp⟩
    | none =>
      refine ih.mono ?_
      rintro failure rs ⟨hfills, hrefused⟩
      refine ⟨List.forall_mem_cons.mpr ⟨.insert batch, hfills⟩, fun words hwords ↦ ?_⟩
      exact refused_cons.mpr (.inr (hrefused words hwords))

theorem emits_insertValues (m : MembershipTable) :
    (insertValues ch m).Emits ch fun failure rs ↦
      (∀ r ∈ rs, r.call.Fills m) ∧ ∀ e, failure = some e → e.Blames rs := by
  refine .call_bind rfl fun failure ↦ ?_
  cases failure with
  | some words =>
    refine .pure ⟨by simp [Call.Fills.begin], ?_⟩
    rintro _ ⟨⟩
    exact ⟨words, rfl, by simp⟩
  | none =>
    refine (emits_insertAll m _).bind ?_
    rintro failure rs ⟨hfills, hrefused⟩
    cases failure with
    | some words =>
      refine .call_bind rfl fun failure ↦ .pure ⟨?_, ?_⟩
      · simpa [Call.Fills.begin, Call.Fills.rollback, or_imp, forall_and] using hfills
      · rintro _ ⟨⟩
        have hwords := hrefused words rfl
        exact ⟨words, rfl, by simp [hwords]⟩
    | none =>
      refine .call_bind rfl fun failure ↦ ?_
      cases failure with
      | some words =>
        refine .pure ⟨?_, ?_⟩
        · simpa [Call.Fills.begin, Call.Fills.commit, or_imp, forall_and] using hfills
        · rintro _ ⟨⟩
          exact ⟨words, rfl, by simp⟩
      | none =>
        refine .pure ⟨?_, by simp⟩
        simpa [Call.Fills.begin, Call.Fills.commit, or_imp, forall_and] using hfills

theorem emits_loadValues (d : Dialect) (m : MembershipTable) :
    (loadValues d ch m).Emits ch fun failure rs ↦ (∀ r ∈ rs, r.call.Fills m) ∧
      ∀ e, failure = some e → e.Blames rs ∨ e = .noBulkCopy ∧ d.engine = .postgres := by
  rw [loadValues]
  split
  · exact (emits_insertValues m).mono fun _ _ h ↦ ⟨h.1, fun e he ↦ .inl (h.2 e he)⟩
  · next hengine =>
    refine .pure ⟨by simp, ?_⟩
    rintro _ ⟨⟩
    exact .inr ⟨rfl, hengine⟩

/-- The tables of a statement are loaded in order, up to the first that fails. -/
theorem emits_loadTables (d : Dialect) (ch : Channel) (st : Statement)
    (tables : List MembershipTable) :
    (loadTables d ch st tables).Emits ch fun answer rs ↦ Loads rs answer.2 ∧
      ∀ e, answer.1 = some e →
        e.Blames rs ∨ tables ≠ [] ∧ e = .noBulkCopy ∧ d.engine = .postgres := by
  induction tables with
  | nil => exact .pure ⟨.nil, by simp⟩
  | cons m tables ih =>
    refine .call_bind rfl fun failure ↦ ?_
    cases failure with
    | some words =>
      refine .pure ⟨.refused m ch words, ?_⟩
      rintro _ ⟨⟩
      exact .inl ⟨words, rfl, by simp⟩
    | none =>
      refine (emits_loadValues d m).bind ?_
      rintro failure fills ⟨hfills, hcause⟩
      cases failure with
      | some e =>
        refine .pure ⟨.created m ch hfills .nil, ?_⟩
        rintro _ ⟨⟩
        refine (hcause e rfl).imp (fun h ↦ h.mono ?_) fun h ↦ ⟨List.cons_ne_nil _ _, h⟩
        exact fun r hr ↦ List.mem_cons_of_mem _ (List.mem_append_left _ hr)
      | none =>
        refine .notify_bind (ih.bind ?_)
        rintro ⟨failure, names⟩ rest ⟨hloads, hrest⟩
        refine .pure ⟨?_, fun e he ↦ ?_⟩
        · rw [List.append_nil]
          exact .created m ch hfills hloads
        · refine (hrest e he).imp (fun h ↦ h.mono ?_) fun h ↦ ⟨List.cons_ne_nil _ _, h.2⟩
          rw [List.append_nil]
          exact fun r hr ↦ List.mem_cons_of_mem _ (List.mem_append_right _ hr)

theorem emits_dropTables (d : Dialect) (names : List String) :
    (dropTables d ch names).Emits ch fun failure rs ↦
      Drops d ch.connection names rs ∧ ∀ words, failure = some words → Refused rs words := by
  induction names with
  | nil => exact .pure ⟨rfl, by simp⟩
  | cons name names ih =>
    refine (Emits.call_over (.inr rfl) rfl).bind ?_
    rintro first _ rfl
    refine ih.bind ?_
    rintro later rs ⟨hdrops, hrefused⟩
    refine .pure ⟨?_, fun words hwords ↦ ?_⟩
    · rw [List.append_nil, Drops, List.singleton_append, List.map_cons, List.map_cons, hdrops]
      rfl
    · rw [List.append_nil, List.singleton_append, refused_cons]
      cases first with
      | some word => exact .inl hwords
      | none => exact .inr (hrefused words hwords)

end SessionM

/-! ## Statements -/

/-- Records of one statement, and whether it and its rows are open at their end. -/
inductive Life : List CallRecord → Bool → Bool → Prop
  /-- The statement has not been prepared. -/
  | none : Life [] false false
  /-- The statement could not be prepared. -/
  | refused (sql : String) (ch : Channel) (e : String) :
      Life [⟨.prepare sql, ch, some e⟩] false false
  /-- The prepared statement could not be queried. -/
  | rejected (sql : String) (operands : List Value) (ch : Channel) (e : String) :
      Life [⟨.prepare sql, ch, .none⟩, ⟨.query operands, ch, some e⟩] true false
  /-- The prepared statement was queried, and rows have been fetched. -/
  | reading (sql : String) (operands : List Value) (ch : Channel) {fetches : List CallRecord}
      (fetched : ∀ r ∈ fetches, r.call = .fetch) :
      Life (⟨.prepare sql, ch, .none⟩ :: ⟨.query operands, ch, .none⟩ :: fetches) true true
  /-- The rows have been closed. -/
  | read {rs : List CallRecord} (ch : Channel) (e : Option String) (before : Life rs true true) :
      Life (rs ++ [⟨.closeRows, ch, e⟩]) true false
  /-- The statement has been closed. -/
  | ended {rs : List CallRecord} (ch : Channel) (e : Option String)
      (before : Life rs true false) : Life (rs ++ [⟨.closeStatement, ch, e⟩]) false false

namespace Life

variable {rs rs' : List CallRecord} {statement rows : Bool}

theorem fetch (h : Life rs true true) (hfetch : ∀ r ∈ rs', r.call = .fetch) :
    Life (rs ++ rs') true true := by
  cases h with
  | reading sql operands ch fetched =>
    exact .reading sql operands ch (List.forall_mem_append.mpr ⟨fetched, hfetch⟩)

/-- Closing what is open ends the life of a statement. -/
theorem finish (h : Life rs statement rows) (hcalls : rs'.map (·.call) =
    (if rows then [Call.closeRows] else []) ++
      (if statement then [Call.closeStatement] else [])) :
    Life (rs ++ rs') false false := by
  cases rows with
  | true =>
    obtain rfl : statement = true := by
      cases h
      rfl
    obtain ⟨r, rs', rfl, hr, hrest⟩ := List.map_eq_cons_iff.mp hcalls
    obtain ⟨r', rs', rfl, hr', hrest⟩ := List.map_eq_cons_iff.mp hrest
    obtain rfl := List.map_eq_nil_iff.mp hrest
    obtain ⟨_, ch, e⟩ := r
    obtain ⟨_, ch', e'⟩ := r'
    subst hr hr'
    have hended := (h.read ch e).ended ch' e'
    rwa [List.append_assoc] at hended
  | false =>
    cases statement with
    | true =>
      obtain ⟨r, rs', rfl, hr, hrest⟩ := List.map_eq_cons_iff.mp hcalls
      obtain rfl := List.map_eq_nil_iff.mp hrest
      obtain ⟨_, ch, e⟩ := r
      subst hr
      exact h.ended ch e
    | false =>
      obtain rfl := List.map_eq_nil_iff.mp hcalls
      rwa [List.append_nil]

end Life

/-- Makes a call if there is need for it. -/
def SessionM.callIf (b : Bool) (m : SessionM (Option String)) : SessionM (Option String) :=
  if b then m else pure none

theorem SessionM.emits_callIf {ch : Channel} (b : Bool) {m : SessionM (Option String)} {c : Call}
    (hm : m.Emits ch fun failure rs ↦ rs = [⟨c, ch, failure⟩]) :
    (callIf b m).Emits ch fun failure rs ↦ rs.map (·.call) = (if b then [c] else []) ∧
      ∀ words, failure = some words → Refused rs words := by
  rw [callIf]
  split
  · refine hm.mono ?_
    rintro failure rs rfl
    exact ⟨rfl, fun words hwords ↦ refused_cons.mpr (.inl hwords)⟩
  · exact .pure ⟨rfl, by simp⟩

namespace Holdings

variable {ch : Channel}

theorem release_eq (d : Dialect) (h : Holdings) : h.release d ch = (do
    let rows ← SessionM.callIf h.rows (SessionM.call ch .closeRows)
    let statement ← SessionM.callIf h.statement (SessionM.closeStatement ch)
    let tables ← SessionM.dropTables d ch h.temporaries
    return rows <|> statement <|> tables) := by
  rw [release]
  cases h.rows <;> cases h.statement <;> rfl

/-- What is held is given up in order: the rows, the statement, the temporary tables. -/
theorem emits_release (d : Dialect) (ch : Channel) (h : Holdings) :
    (h.release d ch).Emits ch fun failure rs ↦ ∃ closed dropped, rs = closed ++ dropped ∧
      closed.map (·.call) = (if h.rows then [Call.closeRows] else []) ++
        (if h.statement then [Call.closeStatement] else []) ∧
      Drops d ch.connection h.temporaries dropped ∧
      ∀ words, failure = some words → Refused rs words := by
  rw [release_eq]
  refine (SessionM.emits_callIf _ (.call rfl)).bind ?_
  rintro rows rs₁ ⟨hcalls₁, hrefused₁⟩
  refine (SessionM.emits_callIf _ .closeStatement).bind ?_
  rintro statement rs₂ ⟨hcalls₂, hrefused₂⟩
  refine (SessionM.emits_dropTables d _).bind ?_
  rintro tables rs₃ ⟨hdrops, hrefused₃⟩
  refine .pure ⟨rs₁ ++ rs₂, rs₃, by simp, ?_, hdrops, fun words hwords ↦ ?_⟩
  · rw [List.map_append, hcalls₁, hcalls₂]
  · -- the first of the three failures is the answer
    simp only [refused_append]
    cases rows with
    | some word => exact .inl (hrefused₁ words hwords)
    | none =>
      cases statement with
      | some word => exact .inr (.inl (hrefused₂ words hwords))
      | none => exact .inr (.inr (.inl (hrefused₃ words hwords)))

end Holdings

/-! ## Opening and reading -/

namespace Traversal

variable {ch : Channel}

/-- A statement that has been prepared and started is open with its rows. -/
theorem emits_startQuery (d : Dialect) (tree : Tree) (st : Statement) (temporaries : List String) :
    (startQuery ch tree st { temporaries }).Emits ch fun answer rs ↦
      answer.2.temporaries = temporaries ∧ Life rs answer.2.statement answer.2.rows ∧
        (∀ stream, answer.1 = .ok stream → answer.2.statement ∧ answer.2.rows) ∧
        ∀ e, answer.1 = .error e → e.Cause d rs := by
  refine (SessionM.Emits.prepare st.sql).bind ?_
  rintro failure _ rfl
  cases failure with
  | some words =>
    refine .pure ⟨rfl, .refused st.sql ch words, by simp, ?_⟩
    rintro _ ⟨⟩
    exact .refused ⟨words, rfl, by simp⟩
  | none =>
    refine .get_bind fun s ↦ .call_bind rfl fun failure ↦ ?_
    cases failure with
    | some words =>
      refine .pure ⟨rfl, .rejected st.sql st.operands ch words, by simp, ?_⟩
      rintro _ ⟨⟩
      exact .refused ⟨words, rfl, by simp⟩
    | none =>
      refine .get_bind fun s' ↦ ?_
      have hlife : Life [⟨.prepare st.sql, ch, none⟩, ⟨.query st.operands, ch, none⟩] true true :=
        .reading st.sql st.operands ch (by simp)
      dsimp only
      split
      · next name hname =>
        refine .pure ⟨rfl, hlife, by simp, ?_⟩
        rintro _ ⟨⟩
        exact .unknownColumn hname
      · exact .notify_bind (.pure ⟨rfl, hlife, by simp, by simp⟩)

/-- Records of opening a statement, and what is held at their end. -/
def Opens (held : Holdings) (rs : List CallRecord) : Prop :=
  ∃ loaded lived, rs = loaded ++ lived ∧ Loads loaded held.temporaries ∧
    Life lived held.statement held.rows

theorem emits_runStatement (d : Dialect) (ch : Channel) (tree : Tree) (st : Statement) :
    (runStatement d ch tree st).Emits ch fun answer rs ↦ Opens answer.2 rs ∧
      (∀ stream, answer.1 = .ok stream → answer.2.statement ∧ answer.2.rows) ∧
      ∀ e, answer.1 = .error e → ∃ cause : ExecutionError,
        e = .execution st.mode st.fingerprint cause ∧ cause.Cause d rs := by
  refine (SessionM.emits_loadTables d ch st st.tables).bind ?_
  rintro ⟨failure, names⟩ loaded ⟨hloads, hcause⟩
  cases failure with
  | some e =>
    refine .pure_bind (.notify_bind (.pure ⟨⟨loaded, [], rfl, hloads, .none⟩, by simp, ?_⟩))
    rintro _ ⟨⟩
    rw [List.append_nil]
    rcases hcause e rfl with hblames | ⟨-, rfl, hengine⟩
    · exact ⟨e, rfl, .refused hblames⟩
    · exact ⟨_, rfl, .noBulkCopy hengine⟩
  | none =>
    refine (emits_startQuery d tree st names).bind ?_
    rintro ⟨outcome, held⟩ lived ⟨rfl, hlife, hok, hcause⟩
    cases outcome with
    | error e =>
      refine .notify_bind (.pure ⟨⟨loaded, lived, by simp, hloads, hlife⟩, by simp, ?_⟩)
      rintro _ ⟨⟩
      refine ⟨e, rfl, (hcause e rfl).mono ?_⟩
      rw [List.append_nil]
      exact List.subset_append_right _ _
    | ok stream =>
      exact .pure ⟨⟨loaded, lived, by simp, hloads, hlife⟩, fun _ _ ↦ hok _ rfl, by simp⟩

section Open

variable {c : Compiler} {tree : Tree} {mode : Mode} {p : OptionalPath} {s s₁ : Session}

theorem openStatement_of_error {e : QueryError}
    (h : SessionM.compile (CompileM.statement c tree mode p.path p.branches) s = (.error e, s₁)) :
    openStatement c ch tree mode p s = ((.error (.compile e), {}), s₁) := by
  simp only [openStatement, bind, StateT.bind, h]
  rfl

theorem openStatement_of_ok {st : Statement}
    (h : SessionM.compile (CompileM.statement c tree mode p.path p.branches) s = (.ok st, s₁)) :
    openStatement c ch tree mode p s = runStatement c.dialect ch tree st s₁ := by
  simp only [openStatement, bind, StateT.bind, h]

/-- Compiling makes no call. -/
theorem database_of_compile {α : Type} {m : CompileM α} {answer : Except QueryError α}
    (h : SessionM.compile m s = (answer, s₁)) :
    s₁.database = s.database ∧ s₁.openStatements = s.openStatements := by
  obtain ⟨-, rfl⟩ := Prod.mk.inj h
  exact ⟨rfl, rfl⟩

/-- Opening a statement that compiles fails for a cause. -/
theorem exists_openStatement_of_compile {st : Statement}
    {answer : Except TraversalError RowStream × Holdings} {s' : Session}
    (hcompile : SessionM.compile (CompileM.statement c tree mode p.path p.branches) s =
      (.ok st, s₁)) (h : openStatement c ch tree mode p s = (answer, s')) :
    ∃ rs, s₁.Extends ch rs s' ∧ Opens answer.2 rs ∧
      (∀ stream, answer.1 = .ok stream → answer.2.statement ∧ answer.2.rows) ∧
      ∀ e, answer.1 = .error e → ∃ cause : ExecutionError,
        e = .execution st.mode st.fingerprint cause ∧ cause.Cause c.dialect rs := by
  obtain ⟨rs, hextends, hopens⟩ := emits_runStatement c.dialect ch tree st s₁
  rw [← openStatement_of_ok hcompile, h] at hextends hopens
  exact ⟨rs, hextends, hopens⟩

/-- Opening a statement compiles it, and then holds on to what it has created and opened. -/
theorem exists_openStatement {answer : Except TraversalError RowStream × Holdings} {s' : Session}
    (h : openStatement c ch tree mode p s = (answer, s')) : ∃ (s₁ : Session) (rs : List CallRecord),
      (s₁.database = s.database ∧ s₁.openStatements = s.openStatements) ∧ s₁.Extends ch rs s' ∧
      Opens answer.2 rs ∧ ∀ stream, answer.1 = .ok stream → answer.2.statement ∧ answer.2.rows := by
  rcases hcompile : SessionM.compile (CompileM.statement c tree mode p.path p.branches) s with
    ⟨_ | st, s₁⟩
  · rw [openStatement_of_error hcompile] at h
    obtain ⟨rfl, rfl⟩ := Prod.mk.inj h
    exact ⟨s₁, [], database_of_compile hcompile, .refl s₁, ⟨[], [], rfl, .nil, .none⟩, by simp⟩
  · obtain ⟨rs, hextends, hopens, hok, -⟩ := exists_openStatement_of_compile hcompile h
    exact ⟨s₁, rs, database_of_compile hcompile, hextends, hopens, hok⟩

end Open

/-- A batch of rows ends early because the database has refused a call or a row cannot be read. -/
def BatchEnd.Caused (reader : RowReader) (rs : List CallRecord) : BatchEnd → Prop
  | .full _ | .exhausted => True
  | .fetch words => Refused rs words
  | .unreadable e => ∃ row, reader.read row = .error e

theorem BatchEnd.Caused.mono {reader : RowReader} {rs rs' : List CallRecord} {ended : BatchEnd}
    (h : ended.Caused reader rs) (hsub : rs ⊆ rs') : ended.Caused reader rs' := by
  cases ended with
  | full pending => trivial
  | exhausted => trivial
  | fetch words =>
    obtain ⟨r, hr, hrefused⟩ := h
    exact ⟨r, hsub hr, hrefused⟩
  | unreadable e => exact h

/-- Rows are fetched one by one. Their end closes them, as does a failure. -/
theorem emits_readBatch (ch : Channel) (reader : RowReader) (n : ℕ) (rows : List (List Value)) :
    (readBatch ch reader n rows).Emits ch fun answer rs ↦ ∃ fetched closed, rs = fetched ++ closed ∧
      (∀ r ∈ fetched, r.call = .fetch) ∧
      closed.map (·.call) = (if answer.2.1 then [] else [.closeRows]) ∧
      ((∃ pending, answer.2.2 = .full pending) → answer.2.1) ∧ answer.2.2.Caused reader rs := by
  induction n generalizing rows with
  | zero => exact .pure ⟨[], [], rfl, by simp, rfl, by simp, trivial⟩
  | succ n ih =>
    refine .call_bind rfl fun failure ↦ ?_
    cases failure with
    | some words =>
      refine .call_bind rfl fun failure ↦ .pure ⟨[_], [_], rfl, by simp, rfl, by simp, ?_⟩
      exact refused_cons.mpr (.inl rfl)
    | none =>
      cases rows with
      | nil =>
        refine .call_bind rfl fun failure ↦ ?_
        cases failure with
        | some words =>
          refine .pure ⟨[_], [_], rfl, by simp, rfl, by simp, ?_⟩
          exact refused_cons.mpr (.inr (refused_cons.mpr (.inl rfl)))
        | none => exact .pure ⟨[_], [_], rfl, by simp, rfl, by simp, trivial⟩
      | cons row rows =>
        dsimp only
        split
        · next e he => exact .pure ⟨[_], [], rfl, by simp, rfl, by simp, row, he⟩
        · refine (ih rows).bind ?_
          rintro ⟨results, isOpen, ended⟩ rs
            ⟨fetched, closed, rfl, hfetched, hclosed, hfull, hcaused⟩
          refine .pure ⟨⟨.fetch, ch, none⟩ :: fetched, closed, by simp, ?_, hclosed, hfull, ?_⟩
          · exact List.forall_mem_cons.mpr ⟨rfl, hfetched⟩
          · apply hcaused.mono
            rw [List.append_nil]
            exact List.subset_cons_self _ _

end Traversal

end PathQuery
