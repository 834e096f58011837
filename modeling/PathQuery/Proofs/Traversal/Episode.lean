import PathQuery.Proofs.Traversal.Calls

/-!
# Episodes

The calls of a traversal come in *episodes*, one for each statement: its temporary tables are
created and filled, it is prepared, read and closed, and the tables that were created are dropped,
each of them once. An episode may be cut short by a failure at any call, but not its end: whatever
has been opened is closed. All episodes take place on one connection. It is taken before the first
of them and given back after the last; in between, an episode under way *accounts* for what is held
on it.

Counted along the calls there is never more than one open statement. The accounts of a session keep
the calls together with the gauge of open statements and with the connections that are in use.
-/

namespace PathQuery

/-! ## Episodes -/

/-- The calls for one statement, on the connection with a number. -/
structure Episode (d : Dialect) (k : ℕ) where
  /-- The temporary tables that were created. -/
  created : List String
  /-- Their creation. -/
  loaded : List CallRecord
  /-- The statement, from its preparation to its end. -/
  lived : List CallRecord
  /-- The end of the tables. -/
  dropped : List CallRecord
  /-- The tables are created first. -/
  loads : Loads loaded created
  /-- The statement is closed, if it could be prepared, and its rows before it. -/
  lives : Life lived false false
  /-- Every table that was created is dropped, once, even if the traversal has been canceled. -/
  drops : Drops d (some k) created dropped
  /-- The same connection has been used before. -/
  channels : ∀ r ∈ loaded ++ lived, r.channel.connection = some k

/-- The calls of an episode, in order. -/
def Episode.records {d : Dialect} {k : ℕ} (e : Episode d k) : List CallRecord :=
  e.loaded ++ e.lived ++ e.dropped

/-- Calls that account for the connection that is held, if one is, and for what is held on it. -/
inductive Accounted (d : Dialect) : Option ℕ → Holdings → List CallRecord → Prop
  /-- No connection has been taken, though there may have been an attempt to connect. -/
  | waiting {opening : List CallRecord} (hconnects : Connects opening) :
      Accounted d none {} opening
  /-- A connection has been taken. There have been episodes on it, and one is under way. -/
  | holding {k : ℕ} {context : CallContext} {opening underway : List CallRecord}
      {held : Holdings} (episodes : List (Episode d k)) (hconnects : Connects opening)
      (hopens : Traversal.Opens held underway)
      (hchannels : ∀ r ∈ underway, r.channel.connection = some k) :
      Accounted d (some k) held (opening ++ ⟨.acquire, ⟨some k, context⟩, none⟩ ::
        (episodes.flatMap Episode.records ++ underway))
  /-- The connection has been given back after the last episode. -/
  | released {k : ℕ} {context context' : CallContext} {opening : List CallRecord}
      (episodes : List (Episode d k)) (hconnects : Connects opening) :
      Accounted d none {} (opening ++ ⟨.acquire, ⟨some k, context⟩, none⟩ ::
        (episodes.flatMap Episode.records ++ [⟨.release, ⟨some k, context'⟩, none⟩]))

namespace Accounted

variable {d : Dialect} {connection : Option ℕ} {held : Holdings} {rs rs' : List CallRecord}

/-- Without a connection nothing is held. -/
theorem isSome_or (h : Accounted d connection held rs) : connection.isSome ∨ held = {} := by
  cases h with
  | waiting hconnects => exact .inr rfl
  | holding episodes hconnects hopens hchannels => exact .inl rfl
  | released episodes hconnects => exact .inr rfl

/-- An episode is complete when nothing is held any more. -/
theorem exists_episodes {k : ℕ} (h : Accounted d (some k) {} rs) :
    ∃ (context : CallContext) (opening : List CallRecord) (episodes : List (Episode d k)),
      Connects opening ∧ rs = opening ++ ⟨.acquire, ⟨some k, context⟩, none⟩ ::
        episodes.flatMap Episode.records := by
  cases h with
  | @holding _ context opening _ _ episodes hconnects hopens hchannels =>
    obtain ⟨loaded, lived, rfl, hloads, hlife⟩ := hopens
    let last : Episode d k := ⟨[], loaded, lived, [], hloads, hlife, rfl, hchannels⟩
    have hlast : last.records = loaded ++ lived := List.append_nil _
    exact ⟨context, opening, episodes ++ [last], hconnects, by simp [hlast]⟩

/-- A statement is opened on the connection. -/
theorem opens {k : ℕ} (h : Accounted d (some k) {} rs) (hopens : Traversal.Opens held rs')
    (hchannels : ∀ r ∈ rs', r.channel.connection = some k) :
    Accounted d (some k) held (rs ++ rs') := by
  obtain ⟨context, opening, episodes, hconnects, rfl⟩ := h.exists_episodes
  rw [List.append_assoc, List.cons_append]
  exact .holding episodes hconnects hopens hchannels

/-- Giving up what is held completes the episode. -/
theorem giveUp (h : Accounted d connection held rs) {closed dropped : List CallRecord}
    (hclosed : closed.map (·.call) = (if held.rows then [Call.closeRows] else []) ++
      (if held.statement then [Call.closeStatement] else []))
    (hdropped : Drops d connection held.temporaries dropped)
    (hchannels : ∀ r ∈ closed ++ dropped, r.channel.connection = connection) :
    Accounted d connection {} (rs ++ (closed ++ dropped)) := by
  cases h with
  | waiting hconnects =>
    obtain rfl := List.map_eq_nil_iff.mp hclosed
    obtain rfl := List.map_eq_nil_iff.mp hdropped
    rw [List.append_nil, List.append_nil]
    exact .waiting hconnects
  | released episodes hconnects =>
    obtain rfl := List.map_eq_nil_iff.mp hclosed
    obtain rfl := List.map_eq_nil_iff.mp hdropped
    rw [List.append_nil, List.append_nil]
    exact .released episodes hconnects
  | @holding k context opening _ _ episodes hconnects hopens hbefore =>
    obtain ⟨loaded, lived, rfl, hloads, hlife⟩ := hopens
    have hlast : ∀ r ∈ loaded ++ (lived ++ closed), r.channel.connection = some k := by
      rw [← List.append_assoc]
      exact List.forall_mem_append.mpr ⟨hbefore, (List.forall_mem_append.mp hchannels).1⟩
    let last : Episode d k :=
      ⟨held.temporaries, loaded, lived ++ closed, dropped, hloads, hlife.finish hclosed, hdropped,
        hlast⟩
    have hrecords : last.records = loaded ++ (lived ++ closed) ++ dropped := rfl
    have hnext : Accounted d (some k) {} (opening ++ ⟨.acquire, ⟨some k, context⟩, none⟩ ::
        ((episodes ++ [last]).flatMap Episode.records ++ [])) :=
      .holding _ hconnects ⟨[], [], rfl, .nil, .none⟩ (List.forall_mem_nil _)
    simpa [hrecords] using hnext

/-- Reading rows goes on with the episode. -/
theorem read (fetched : List CallRecord) (h : Accounted d connection held rs)
    (hstatement : held.statement) (hrows : held.rows) {closed : List CallRecord} {isOpen : Bool}
    (hfetched : ∀ r ∈ fetched, r.call = .fetch)
    (hclosed : closed.map (·.call) = if isOpen then [] else [.closeRows])
    (hchannels : ∀ r ∈ fetched ++ closed, r.channel.connection = connection) :
    Accounted d connection { held with rows := isOpen } (rs ++ (fetched ++ closed)) := by
  cases h with
  | waiting hconnects => cases hrows
  | released episodes hconnects => cases hrows
  | @holding k context opening _ _ episodes hconnects hopens hbefore =>
    obtain ⟨loaded, lived, rfl, hloads, hlife⟩ := hopens
    rw [hstatement, hrows] at hlife
    have hlived : Life (lived ++ (fetched ++ closed)) held.statement isOpen := by
      have hfetch := hlife.fetch hfetched
      rw [hstatement, ← List.append_assoc]
      cases isOpen with
      | true =>
        obtain rfl := List.map_eq_nil_iff.mp hclosed
        rwa [List.append_nil]
      | false =>
        obtain ⟨r, closed, rfl, hr, hrest⟩ := List.map_eq_cons_iff.mp hclosed
        obtain rfl := List.map_eq_nil_iff.mp hrest
        obtain ⟨_, ch, e⟩ := r
        subst hr
        exact hfetch.read ch e
    have hnext : Accounted d (some k) { held with rows := isOpen }
        (opening ++ ⟨.acquire, ⟨some k, context⟩, none⟩ ::
          (episodes.flatMap Episode.records ++ (loaded ++ lived ++ (fetched ++ closed)))) :=
      .holding episodes hconnects ⟨loaded, _, List.append_assoc _ _ _, hloads, hlived⟩
        (List.forall_mem_append.mpr ⟨hbefore, hchannels⟩)
    simpa using hnext

/-- The connection is given back when nothing is held on it. -/
theorem release {k : ℕ} (h : Accounted d (some k) {} rs) (context : CallContext) :
    Accounted d none {} (rs ++ [⟨.release, ⟨some k, context⟩, none⟩]) := by
  obtain ⟨before, opening, episodes, hconnects, rfl⟩ := h.exists_episodes
  rw [List.append_assoc, List.cons_append]
  exact .released episodes hconnects

end Accounted

/-! ## Open statements -/

/-- Calls that leave a statement open, or none, and never more than one on the way. -/
structure Steady (rs : List CallRecord) (isOpen : Bool) : Prop where
  /-- What is left open at the end. -/
  total : openCount rs = isOpen.toNat
  /-- What is left open on the way. -/
  take : ∀ n, openCount (rs.take n) = 0 ∨ openCount (rs.take n) = 1

namespace Steady

variable {rs rs' : List CallRecord} {isOpen isOpen' : Bool}

theorem nil : Steady [] false := ⟨rfl, fun n ↦ by simp [openCount]⟩

theorem append (h : Steady rs false) (h' : Steady rs' isOpen) : Steady (rs ++ rs') isOpen where
  total := by
    rw [openCount_append, h.total, h'.total]
    simp
  take n := by
    rw [List.take_append, openCount_append]
    by_cases hn : n ≤ rs.length
    · simpa [Nat.sub_eq_zero_of_le hn, openCount] using h.take n
    · rw [List.take_of_length_le (by omega), h.total]
      simpa using h'.take _

theorem concat (h : Steady rs isOpen) {r : CallRecord}
    (hr : isOpen.toNat + r.effect = isOpen'.toNat) : Steady (rs ++ [r]) isOpen' where
  total := by
    rw [openCount_append, h.total]
    simpa [openCount] using hr
  take n := by
    by_cases hn : n ≤ rs.length
    · rw [List.take_append_of_le_length hn]
      exact h.take n
    · rw [List.take_of_length_le (by simp; omega), openCount_append, h.total]
      cases isOpen' <;> simp [openCount, hr]

/-- Calls that open and close nothing leave things as they are. -/
theorem append_of_opensOrCloses (h : Steady rs isOpen)
    (h' : ∀ r ∈ rs', r.call.opensOrCloses = false) : Steady (rs ++ rs') isOpen := by
  induction rs' generalizing rs with
  | nil => rwa [List.append_nil]
  | cons r rs' ih =>
    rw [List.forall_mem_cons] at h'
    have hnext : Steady (rs ++ [r]) isOpen := h.concat <| by
      rw [CallRecord.effect_eq_zero h'.1, Int.add_zero]
    have hlater := ih hnext h'.2
    rwa [List.append_assoc] at hlater

theorem of_opensOrCloses (h : ∀ r ∈ rs, r.call.opensOrCloses = false) : Steady rs false :=
  nil.append_of_opensOrCloses h

theorem of_life {rows : Bool} (h : Life rs isOpen rows) : Steady rs isOpen := by
  induction h with
  | none => exact nil
  | refused sql ch e => exact concat nil rfl
  | rejected sql operands ch e =>
    have hprepared : Steady [⟨.prepare sql, ch, none⟩] true := concat nil rfl
    exact hprepared.concat rfl
  | reading sql operands ch fetched =>
    have hprepared : Steady [⟨.prepare sql, ch, none⟩] true := concat nil rfl
    refine hprepared.append_of_opensOrCloses (List.forall_mem_cons.mpr ⟨rfl, fun r hr ↦ ?_⟩)
    rw [fetched r hr]
    rfl
  | read ch e _ ih => exact concat ih rfl
  | ended ch e _ ih => exact concat ih rfl

theorem of_loads {names : List String} (h : Loads rs names) : Steady rs false := by
  induction h with
  | nil => exact nil
  | refused m ch e => exact concat nil rfl
  | @created m ch fills rest names filled _ ih =>
    refine append (append_of_opensOrCloses (concat nil rfl) fun r hr ↦ ?_) ih
    obtain ⟨call, ch, failure⟩ := r
    obtain ⟨⟩ := filled _ hr <;> rfl

theorem of_connects (h : Connects rs) : Steady rs false := by
  refine of_opensOrCloses fun r hr ↦ ?_
  obtain ⟨source, hsource⟩ := h r hr
  rw [hsource]
  rfl

theorem of_episodes {d : Dialect} {k : ℕ} (episodes : List (Episode d k)) :
    Steady (episodes.flatMap Episode.records) false := by
  induction episodes with
  | nil => exact nil
  | cons e episodes ih =>
    rw [List.flatMap_cons, Episode.records]
    refine append (append (append (of_loads e.loads) (of_life e.lives)) ?_) ih
    refine of_opensOrCloses fun r hr ↦ ?_
    have hmem : r.call ∈ e.dropped.map (·.call) := List.mem_map_of_mem hr
    rw [e.drops.map_call] at hmem
    obtain ⟨name, -, hname⟩ := List.mem_map.mp hmem
    rw [← hname]
    rfl

theorem of_accounted {d : Dialect} {connection : Option ℕ} {held : Holdings}
    (h : Accounted d connection held rs) : Steady rs held.statement := by
  cases h with
  | waiting hconnects => exact of_connects hconnects
  | @holding k context _ _ _ episodes hconnects hopens hchannels =>
    obtain ⟨loaded, lived, rfl, hloads, hlife⟩ := hopens
    have hacquired : Steady [⟨.acquire, ⟨some k, context⟩, none⟩] false := concat nil rfl
    refine append (of_connects hconnects) (hacquired.append ?_)
    exact append (of_episodes episodes) (append (of_loads hloads) (of_life hlife))
  | @released k context _ _ episodes hconnects =>
    have hacquired : Steady [⟨.acquire, ⟨some k, context⟩, none⟩] false := concat nil rfl
    refine append (of_connects hconnects) (hacquired.append ?_)
    exact append (of_episodes episodes) (concat nil rfl)

end Steady

/-! ## Giving the connection back -/

namespace SessionM

variable {ch : Channel} {s : Session}

theorem giveBack_of_none (hconnection : ch.connection = none) : (giveBack ch s).2 = s := by
  rw [giveBack, hconnection]
  rfl

/-- A connection that is in use is given back by one call, and no warning is given. -/
theorem giveBack_of_mem {k : ℕ} (hconnection : ch.connection = some k)
    (hheld : k ∈ s.database.lent) : (giveBack ch s).2 = { s with database := { s.database with
      lent := s.database.lent.erase k
      history := s.database.history.push ⟨.release, ch, none⟩ } } := by
  rw [giveBack, hconnection]
  simp only [bind, StateT.bind, release, Database.release, if_pos hheld]
  rfl

theorem calls_giveBack_of_mem (ch : Channel) {k : ℕ} (hconnection : ch.connection = some k)
    (hheld : k ∈ s.database.lent) :
    (giveBack ch s).2.calls = s.calls ++ [⟨.release, ch, none⟩] := by
  rw [giveBack_of_mem hconnection hheld]
  exact Array.toList_push

theorem exists_giveBack (ch : Channel) (s : Session) : ∃ rs,
    (giveBack ch s).2.calls = s.calls ++ rs ∧ (∀ r ∈ rs, r.call = .release) ∧
      (giveBack ch s).2.compiling = s.compiling := by
  cases hconnection : ch.connection with
  | none =>
    rw [giveBack_of_none hconnection]
    exact ⟨[], (List.append_nil _).symm, List.forall_mem_nil _, rfl⟩
  | some k =>
    rw [giveBack, hconnection]
    simp only [bind, StateT.bind]
    rcases hrelease : release ch k s with ⟨failure, s'⟩
    have hcalls : s'.calls = s.calls ++ [⟨.release, ch, failure⟩] := by
      obtain ⟨rfl, rfl⟩ := Prod.mk.inj hrelease
      exact Array.toList_push
    have hcompiling : s'.compiling = s.compiling := by
      obtain ⟨-, rfl⟩ := Prod.mk.inj hrelease
      rfl
    cases failure with
    | none => exact ⟨_, hcalls, List.forall_mem_singleton.mpr rfl, hcompiling⟩
    | some message => exact ⟨_, hcalls, List.forall_mem_singleton.mpr rfl, hcompiling⟩

end SessionM

/-! ## Accounts -/

/-- Since `s₀` the calls account for what is held. -/
structure Session.Accounts (s₀ : Session) (d : Dialect) (connection : Option ℕ) (held : Holdings)
    (s : Session) : Prop where
  /-- The gauge has counted the statements that the calls have opened and closed. -/
  calls : ∃ rs, s.calls = s₀.calls ++ rs ∧ s.openStatements = s₀.openStatements + openCount rs ∧
    Accounted d connection held rs
  /-- Of the connections that have been taken the one that is held is in use. -/
  lent : s.database.lent = connection.toList ++ s₀.database.lent

namespace Session.Accounts

variable {s₀ s s₁ s' : Session} {d : Dialect} {connection : Option ℕ} {held held' : Holdings}
  {ch : Channel} {rs' : List CallRecord}

theorem refl (s : Session) (d : Dialect) : s.Accounts d none {} s where
  calls := ⟨[], (List.append_nil _).symm, (Int.add_zero _).symm, .waiting (List.forall_mem_nil _)⟩
  lent := rfl

/-- What makes no call leaves the accounts as they are. -/
theorem same (h : s₀.Accounts d connection held s) (hdatabase : s'.database = s.database)
    (hgauge : s'.openStatements = s.openStatements) : s₀.Accounts d connection held s' where
  calls := by
    rw [Session.calls, hdatabase, hgauge]
    exact h.calls
  lent := by
    rw [hdatabase]
    exact h.lent

/-- Calls by way of the channel are entered. -/
theorem extend (ch : Channel) (h : s₀.Accounts d ch.connection held s)
    (hextends : s.Extends ch rs' s')
    (hrs : ∀ {rs}, Accounted d ch.connection held rs →
      Accounted d ch.connection held' (rs ++ rs')) : s₀.Accounts d ch.connection held' s' where
  calls := by
    obtain ⟨rs, hcalls, hgauge, haccounted⟩ := h.calls
    refine ⟨rs ++ rs', ?_, ?_, hrs haccounted⟩
    · rw [hextends.calls, hcalls, List.append_assoc]
    · rw [hextends.gauge, hgauge, openCount_append, Int.add_assoc]
  lent := hextends.lent.trans h.lent

theorem giveUp (ch : Channel) (h : s₀.Accounts d ch.connection held s) :
    s₀.Accounts d ch.connection {} (held.release d ch s).2 := by
  obtain ⟨rs', hextends, closed, dropped, rfl, hclosed, hdropped, -⟩ := held.emits_release d ch s
  exact h.extend ch hextends fun haccounted ↦ haccounted.giveUp hclosed hdropped hextends.channels

/-- A connection on which nothing is held can be given back. -/
theorem giveBack (ch : Channel) (h : s₀.Accounts d ch.connection {} s) :
    s₀.Accounts d none {} (SessionM.giveBack ch s).2 := by
  obtain ⟨_ | k, context⟩ := ch
  · exact h
  · have hlent : s.database.lent = k :: s₀.database.lent := h.lent
    have hheld : k ∈ s.database.lent := by
      rw [hlent]
      exact List.mem_cons_self
    obtain ⟨rs, hcalls, hgauge, haccounted⟩ := h.calls
    refine ⟨⟨rs ++ [⟨.release, ⟨some k, context⟩, none⟩], ?_, ?_, haccounted.release context⟩, ?_⟩
    · rw [SessionM.calls_giveBack_of_mem _ rfl hheld, hcalls, List.append_assoc]
    · rw [SessionM.giveBack_of_mem rfl hheld, openCount_append, ← Int.add_assoc, ← hgauge]
      exact (Int.add_zero _).symm
    · rw [SessionM.giveBack_of_mem rfl hheld]
      dsimp only
      rw [hlent, List.erase_cons_head]
      rfl

end Session.Accounts

/-- Taking a connection is the first thing that is entered. -/
theorem Acquired.accounts {s₀ s s' : Session} {context : CallContext} {answer : Except String ℕ}
    (h : Acquired s context (answer, s')) (hdatabase : s.database = s₀.database)
    (hgauge : s.openStatements = s₀.openStatements) (d : Dialect) :
    (∀ words, answer = .error words → s₀.Accounts d none {} s') ∧
      ∀ k, answer = .ok k → s₀.Accounts d (some k) {} s' := by
  have hcalls : s.calls = s₀.calls := by rw [Session.calls, Session.calls, hdatabase]
  cases h with
  | @refused words opening _ hextends hconnects hrefused =>
    refine ⟨fun _ _ ↦ ⟨⟨opening, ?_, ?_, .waiting hconnects⟩, ?_⟩, by rintro k ⟨⟩⟩
    · rw [hextends.calls, hcalls]
    · rw [hextends.gauge, hgauge]
    · rw [hextends.lent, hdatabase]
      rfl
  | @taken k opening s₁ _ hextends hconnects _ hacquired hlent _ _ hsame =>
    refine ⟨by rintro words ⟨⟩, ?_⟩
    rintro _ ⟨⟩
    have htaken : Accounted d (some k) {} (opening ++ [⟨.acquire, ⟨some k, context⟩, none⟩]) :=
      .holding [] hconnects ⟨[], [], rfl, .nil, .none⟩ (List.forall_mem_nil _)
    refine ⟨⟨_, ?_, ?_, htaken⟩, ?_⟩
    · rw [hacquired, hextends.calls, hcalls, List.append_assoc]
    · rw [hsame, hextends.gauge, hgauge, openCount_append]
      exact congrArg _ (Int.add_zero _).symm
    · rw [hlent, hextends.lent, hdatabase]
      rfl

end PathQuery
