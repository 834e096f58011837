import PathQuery.Proofs.Traversal.Calls

/-!
# Notices have no effect

A session keeps notices of what has happened, and nothing that is done depends on them. Steps that
begin on the same database in the same state of the compiler give the same answers and make the same
calls, whatever has been noticed before. Two traversals that report differently, because they read
their rows in batches of different sizes, can be compared in this way.
-/

namespace PathQuery

/-- Sessions that differ in their notices only. -/
structure Session.Alike (s s' : Session) : Prop where
  database : s.database = s'.database
  compiling : s.compiling = s'.compiling
  openStatements : s.openStatements = s'.openStatements

namespace Session.Alike

variable {s s' s'' : Session}

theorem refl (s : Session) : s.Alike s := ⟨rfl, rfl, rfl⟩

theorem trans (h : s.Alike s') (h' : s'.Alike s'') : s.Alike s'' :=
  ⟨h.database.trans h'.database, h.compiling.trans h'.compiling,
    h.openStatements.trans h'.openStatements⟩

theorem calls (h : s.Alike s') : s.calls = s'.calls := by
  rw [Session.calls, Session.calls, h.database]

theorem notify (h : s.Alike s') (n : Notice) : (SessionM.notify n s).2.Alike s' :=
  ⟨h.database, h.compiling, h.openStatements⟩

end Session.Alike

namespace SessionM

variable {α β : Type}

/-- On sessions that are alike a step gives the same answer and leaves sessions that are alike. -/
def Blind (m : SessionM α) : Prop :=
  ∀ s s' : Session, s.Alike s' → (m s).1 = (m s').1 ∧ (m s).2.Alike (m s').2

/-! ## Rules -/

namespace Blind

theorem pure (a : α) : (pure a : SessionM α).Blind := fun _ _ h ↦ ⟨rfl, h⟩

theorem bind {m : SessionM α} {f : α → SessionM β} (hm : m.Blind) (hf : ∀ a, (f a).Blind) :
    (m >>= f).Blind := by
  intro s s' h
  obtain ⟨hanswer, hsession⟩ := hm s s' h
  change (f (m s).1 (m s).2).1 = (f (m s').1 (m s').2).1 ∧
    (f (m s).1 (m s).2).2.Alike (f (m s').1 (m s').2).2
  rw [← hanswer]
  exact hf _ _ _ hsession

/-- What is read off a session is the same if it is read off the database or the compiler. -/
theorem get_bind {f : Session → SessionM β} (hsame : ∀ {s s' : Session}, s.Alike s' → f s = f s')
    (hf : ∀ s, (f s).Blind) : (get >>= f).Blind := by
  intro s s' h
  change (f s s).1 = (f s' s').1 ∧ (f s s).2.Alike (f s' s').2
  rw [hsame h]
  exact hf s' s s' h

/-- A step that acts on the database, the compiler and the gauge alone. -/
theorem of_eq {m : SessionM α} (h : ∀ (s : Session) (notices : Array Notice),
    (m { s with notices }).1 = (m s).1 ∧ (m { s with notices }).2.Alike (m s).2) : m.Blind := by
  rintro s ⟨_, _, _, notices⟩ ⟨rfl, rfl, rfl⟩
  obtain ⟨hanswer, hdatabase, hcompiling, hgauge⟩ := h s notices
  exact ⟨hanswer.symm, hdatabase.symm, hcompiling.symm, hgauge.symm⟩

theorem call (ch : Channel) (c : Call) : (call ch c).Blind :=
  of_eq fun _ _ ↦ ⟨rfl, rfl, rfl, rfl⟩

theorem acquire (context : CallContext) : (acquire context).Blind :=
  of_eq fun _ _ ↦ ⟨rfl, rfl, rfl, rfl⟩

theorem release (ch : Channel) (k : ℕ) : (release ch k).Blind :=
  of_eq fun _ _ ↦ ⟨rfl, rfl, rfl, rfl⟩

theorem gauge (change : ℤ) : (gauge change).Blind := of_eq fun _ _ ↦ ⟨rfl, rfl, rfl, rfl⟩

theorem compile (m : CompileM α) : (compile m).Blind := of_eq fun _ _ ↦ ⟨rfl, rfl, rfl, rfl⟩

theorem forgetAliases : forgetAliases.Blind := of_eq fun _ _ ↦ ⟨rfl, rfl, rfl, rfl⟩

theorem prepare (ch : Channel) (sql : String) : (prepare ch sql).Blind := by
  refine (call ch _).bind fun failure ↦ ?_
  cases failure with
  | none => exact (gauge 1).bind fun _ ↦ .pure _
  | some e => exact .pure _

theorem closeStatement (ch : Channel) : (closeStatement ch).Blind :=
  (call ch _).bind fun _ ↦ (gauge (-1)).bind fun _ ↦ .pure _

theorem notify (n : Notice) : (notify n).Blind :=
  fun _ _ h ↦ ⟨rfl, h.database, h.compiling, h.openStatements⟩

end Blind

/-! ## The steps of a traversal -/

variable {ch : Channel}

theorem blind_giveBack (ch : Channel) : (giveBack ch).Blind := by
  rw [giveBack]
  split
  · exact .pure ()
  · refine (Blind.release _ _).bind fun failure ↦ ?_
    cases failure with
    | some message => exact .notify _
    | none => exact .pure ()

theorem blind_insertAll (m : MembershipTable) (batches : List (List Value)) :
    (insertAll ch m batches).Blind := by
  induction batches with
  | nil => exact .pure none
  | cons batch batches ih =>
    refine (Blind.call _ _).bind fun failure ↦ ?_
    cases failure with
    | some e => exact .pure _
    | none => exact ih

theorem blind_loadValues (d : Dialect) (m : MembershipTable) : (loadValues d ch m).Blind := by
  rw [loadValues]
  split
  · refine (Blind.call _ _).bind fun begun ↦ ?_
    cases begun with
    | some e => exact .pure _
    | none =>
      refine (blind_insertAll m _).bind fun inserted ↦ ?_
      cases inserted with
      | some e => exact (Blind.call _ _).bind fun _ ↦ .pure _
      | none =>
        refine (Blind.call _ _).bind fun committed ↦ ?_
        cases committed with
        | some e => exact .pure _
        | none => exact .pure _
  · exact .pure _

theorem blind_loadTables (d : Dialect) (st : Statement) (tables : List MembershipTable) :
    (loadTables d ch st tables).Blind := by
  induction tables with
  | nil => exact .pure _
  | cons m tables ih =>
    refine (Blind.call _ _).bind fun created ↦ ?_
    cases created with
    | some e => exact .pure _
    | none =>
      refine (blind_loadValues d m).bind fun loaded ↦ ?_
      cases loaded with
      | some e => exact .pure _
      | none => exact (Blind.notify _).bind fun _ ↦ ih.bind fun _ ↦ .pure _

theorem blind_dropTables (d : Dialect) (names : List String) : (dropTables d ch names).Blind := by
  induction names with
  | nil => exact .pure none
  | cons name names ih => exact (Blind.call _ _).bind fun _ ↦ ih.bind fun _ ↦ .pure _

theorem blind_callIf (b : Bool) {m : SessionM (Option String)} (hm : m.Blind) :
    (callIf b m).Blind := by
  rw [callIf]
  split
  · exact hm
  · exact .pure none

end SessionM

theorem Holdings.blind_release (d : Dialect) (ch : Channel) (held : Holdings) :
    (held.release d ch).Blind := by
  rw [release_eq]
  refine (SessionM.blind_callIf _ (.call _ _)).bind fun _ ↦ ?_
  refine (SessionM.blind_callIf _ (.closeStatement _)).bind fun _ ↦ ?_
  exact (SessionM.blind_dropTables d _).bind fun _ ↦ .pure _

namespace Traversal

variable {ch : Channel}

theorem blind_startQuery (tree : Tree) (st : Statement) (held : Holdings) :
    (startQuery ch tree st held).Blind := by
  refine (SessionM.Blind.prepare _ _).bind fun prepared ↦ ?_
  cases prepared with
  | some e => exact .pure _
  | none =>
    refine .get_bind (fun h ↦ by rw [h.database]) fun s ↦ ?_
    refine (SessionM.Blind.call _ _).bind fun queried ↦ ?_
    cases queried with
    | some e => exact .pure _
    | none =>
      refine .get_bind (fun h ↦ by rw [h.compiling]) fun s' ↦ ?_
      dsimp only
      split
      · exact .pure _
      · exact (SessionM.Blind.notify _).bind fun _ ↦ .pure _

theorem blind_runStatement (d : Dialect) (tree : Tree) (st : Statement) :
    (runStatement d ch tree st).Blind := by
  refine (SessionM.blind_loadTables d st st.tables).bind fun (failure, temporaries) ↦ ?_
  cases failure with
  | some e =>
    refine (SessionM.Blind.pure _).bind fun (outcome, held) ↦ ?_
    cases outcome with
    | ok stream => exact .pure _
    | error e => exact (SessionM.Blind.notify _).bind fun _ ↦ .pure _
  | none =>
    refine (blind_startQuery tree st _).bind fun (outcome, held) ↦ ?_
    cases outcome with
    | ok stream => exact .pure _
    | error e => exact (SessionM.Blind.notify _).bind fun _ ↦ .pure _

theorem blind_openStatement (c : Compiler) (ch : Channel) (tree : Tree) (mode : Mode)
    (p : OptionalPath) : (openStatement c ch tree mode p).Blind := by
  refine (SessionM.Blind.compile _).bind fun outcome ↦ ?_
  cases outcome with
  | error e => exact .pure _
  | ok st => exact blind_runStatement c.dialect tree st

theorem blind_readBatch (ch : Channel) (reader : RowReader) (n : ℕ) (rows : List (List Value)) :
    (readBatch ch reader n rows).Blind := by
  induction n generalizing rows with
  | zero => exact .pure _
  | succ n ih =>
    refine (SessionM.Blind.call _ _).bind fun fetched ↦ ?_
    cases fetched with
    | some e => exact (SessionM.Blind.call _ _).bind fun _ ↦ .pure _
    | none =>
      cases rows with
      | nil =>
        refine (SessionM.Blind.call _ _).bind fun closed ↦ ?_
        cases closed with
        | some e => exact .pure _
        | none => exact .pure _
      | cons row rows =>
        dsimp only
        split
        · exact .pure _
        · exact (ih rows).bind fun _ ↦ .pure _

end Traversal

end PathQuery
