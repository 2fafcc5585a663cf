/-
# Tokens are single-use

What the record of committed transactions should show: each password change is the first by
its token, by the newest token of its user, and before the token expires.  A transaction that
changes a password has checked its token, but when it commits the token may be used, revoked
or expired; and two transactions that issue a token do not revoke each other's.

**`tokens_singleUse`**: the record is in order as long as each commit that changes a password finds
the token as its transaction loaded it, and not expired since, and each commit that issues a token
finds no pending one of the user that its own revocation did not select.
-/
import NoderaxApi.AccountTokens
import NoderaxApi.UserAccountSteps

namespace UsersService

open AuthService KeyedTable ReadCommitted Interleaving Runs Histories

/-! ## The condition and the property -/

/-- A token of this kind was issued to this user. -/
def issuedTo (kind : TokenKind) (userId : Uuid) : TokenFact → Bool
  | .issued issuedKind token => issuedKind = kind && token.userId = userId
  | .passwordChanged _ _ _ => false

/-- A token changes the password while it is the newest of its user and not expired, and only
if it has not done so before. -/
def TokenFact.Allowed (past : List TokenFact) : TokenFact → Prop
  | .issued _ _ => True
  | .passwordChanged kind tokenId time =>
      (∃ token, lastWith (issuedTo kind token.userId) past = some (.issued kind token) ∧
        token.id = tokenId ∧ time < token.expiresAt) ∧
      ∀ earlier, .passwordChanged kind tokenId earlier ∉ past

/-- What a transaction has read of the tokens. -/
structure TokenReads where
  /-- The clock when the token was checked. -/
  checkedAt : ℤ
  /-- The pending tokens of the user that the revocation found. -/
  selected : List Uuid := []

/-- What a transaction has read after a query. -/
def TokenReads.next (reads : TokenReads) (call : PendingTokenCall) (w : TokenWorld) : TokenReads :=
  match call with
  | .findingPending tx kind purpose =>
      let rows := ((tx.view tokenStatements w.db.committed).tokens kind).rows
      { reads with
        selected := (rows.filter fun row =>
          row.userId = purpose.userId && row.status = .pending).map TokenRow.id }
  | _ => reads

/-- The calls, each with what its transaction has read. -/
def readingTokenCalls {Token : Type} (platform : TokenPlatform Token) :
    Calls TokenWorld TokenRequest (PendingTokenCall × TokenReads) TokenInput :=
  (tokenCalls platform).remembering (fun _ _ w => { checkedAt := w.clock })
    fun reads call _ w => reads.next call w

/-- A commit that changes a password finds the token as it was loaded, and the token has not
expired since its check; one that issues a token finds no pending token of the user that its
revocation did not find. -/
def CommitsFindReads (w : TokenWorld) (call : PendingTokenCall × TokenReads)
    (input : TokenInput) : Prop :=
  match call.1 with
  | .committingChange _ kind token =>
      input.fails = true ∨ ((w.db.committed.tokens kind).get token.id = some token ∧
        (call.2.checkedAt < token.expiresAt → w.clock < token.expiresAt))
  | .committingIssue _ kind token =>
      input.fails = true ∨ ∀ row ∈ (w.db.committed.tokens kind).rows,
        row.userId = token.userId → row.status = .pending → row.id ∈ call.2.selected
  | _ => True

instance CommitsFindReads.decidable (w : TokenWorld) (call : PendingTokenCall × TokenReads)
    (input : TokenInput) : Decidable (CommitsFindReads w call input) := by
  unfold CommitsFindReads
  split <;> infer_instance

/-- What the check of a token says. -/
theorem assertAvailable_isOk {kind : TokenKind} {token : TokenRow} {now : ℤ} :
    (kind.assertAvailable token now).isOk = true ↔
      token.status = .pending ∧ now < token.expiresAt := by
  have hcheck : ∀ used unavailable,
      (assertTokenAvailable used unavailable token now).isOk = true ↔
        token.status = .pending ∧ now < token.expiresAt := by
    intro used unavailable
    unfold assertTokenAvailable
    cases hstatus : token.status with
    | consumed => simp [Except.isOk, Except.toBool]
    | revoked => simp [Except.isOk, Except.toBool]
    | pending =>
        by_cases hexpired : token.expiresAt ≤ now
        · simp [hexpired, Except.isOk, Except.toBool]
        · simp [hexpired, Except.isOk, Except.toBool, Int.lt_of_not_ge hexpired]
  cases kind with
  | invitation => exact hcheck _ _
  | passwordReset => exact hcheck _ _

/-! ## What the writes do to pending tokens -/

/-- A write that makes no token pending. -/
def TokenWrite.KeepsPending : TokenWrite → Prop
  | .insertToken _ _ => False
  | .saveTokens _ entities => ∀ entity ∈ entities, entity.status ≠ .pending
  | _ => True

/-- A write that saves this token. -/
def TokenWrite.Saves (kind : TokenKind) (tokenId : Uuid) : TokenWrite → Prop
  | .saveTokens savedKind entities => savedKind = kind ∧ ∃ entity ∈ entities, entity.id = tokenId
  | _ => False

/-- No pending token has this id. -/
def TokenTables.NotPending (kind : TokenKind) (tokenId : Uuid) (d : TokenTables) : Prop :=
  ∀ row ∈ (d.tokens kind).rows, row.id = tokenId → row.status ≠ .pending

/-- What is pending after the save of tokens that are not. -/
theorem mem_foldl_saveToken {entities : List TokenRow} {table : Table TokenRow.key}
    (hentities : ∀ entity ∈ entities, entity.status ≠ .pending) {row : TokenRow}
    (hrow : row ∈ (entities.foldl saveToken table).rows) (hpending : row.status = .pending) :
    row ∈ table.rows ∧ ∀ entity ∈ entities, row.id ≠ entity.id := by
  induction entities generalizing table with
  | nil => exact ⟨hrow, fun _ hmem => absurd hmem List.not_mem_nil⟩
  | cons entity rest ih =>
      obtain ⟨hmem, hothers⟩ := ih (fun e he => hentities e (List.mem_cons_of_mem entity he)) hrow
      rcases Table.mem_update hmem with ⟨hold, hne⟩ | ⟨row₀, -, -, rfl⟩
      · refine ⟨hold, fun e he => ?_⟩
        rcases List.mem_cons.mp he with rfl | hrest
        · exact of_decide_eq_false hne
        · exact hothers e hrest
      · exact absurd hpending (hentities entity List.mem_cons_self)

variable {d : TokenTables} {kind : TokenKind} {write : TokenWrite} {tokenId : Uuid}

/-- After a write that makes no token pending, the pending ones are as they were. -/
theorem pending_of_apply (hkeeps : write.KeepsPending) {row : TokenRow}
    (hrow : row ∈ ((write.apply d).tokens kind).rows) (hpending : row.status = .pending) :
    row ∈ (d.tokens kind).rows := by
  cases write with
  | insertToken insertedKind token => exact hkeeps.elim
  | saveTokens savedKind entities =>
      unfold TokenWrite.apply at hrow
      by_cases hkind : kind = savedKind
      · subst hkind
        simp only [Function.update_self] at hrow
        exact (mem_foldl_saveToken hkeeps hrow hpending).1
      · simp only [Function.update_of_ne hkind] at hrow
        exact hrow
  | _ => exact hrow

theorem notPending_apply (hkeeps : write.KeepsPending) (h : d.NotPending kind tokenId) :
    (write.apply d).NotPending kind tokenId := by
  intro row hrow hid hpending
  exact h row (pending_of_apply hkeeps hrow hpending) hid hpending

theorem notPending_of_saves (hkeeps : write.KeepsPending) (hsaves : write.Saves kind tokenId)
    (d : TokenTables) : (write.apply d).NotPending kind tokenId := by
  cases write with
  | saveTokens savedKind entities =>
      obtain ⟨rfl, entity, hentity, rfl⟩ := hsaves
      intro row hrow hid hpending
      unfold TokenWrite.apply at hrow
      simp only [Function.update_self] at hrow
      exact (mem_foldl_saveToken hkeeps hrow hpending).2 entity hentity hid
  | _ => exact hsaves.elim

theorem isSome_foldl_saveToken {entities : List TokenRow} {table : Table TokenRow.key}
    (h : (table.get tokenId).isSome = true) :
    ((entities.foldl saveToken table).get tokenId).isSome = true := by
  induction entities generalizing table with
  | nil => exact h
  | cons entity rest ih =>
      refine ih ?_
      rw [saveToken, Table.get_update, Option.isSome_map]
      exact h

/-- No write removes a token. -/
theorem isSome_apply (write : TokenWrite) (h : ((d.tokens kind).get tokenId).isSome = true) :
    (((write.apply d).tokens kind).get tokenId).isSome = true := by
  cases write with
  | insertToken insertedKind token =>
      unfold TokenWrite.apply
      by_cases hkind : kind = insertedKind
      · subst hkind
        obtain ⟨row, hrow⟩ := Option.isSome_iff_exists.mp h
        simp only [Function.update_self, Table.get_insert_of_get hrow, Option.isSome_some]
      · simp only [Function.update_of_ne hkind]
        exact h
  | saveTokens savedKind entities =>
      unfold TokenWrite.apply
      by_cases hkind : kind = savedKind
      · subst hkind
        simp only [Function.update_self]
        exact isSome_foldl_saveToken h
      · simp only [Function.update_of_ne hkind]
        exact h
  | _ => exact h

/-! ## What the transactions write -/

/-- The transaction has made no token pending. -/
def KeepsPendingSoFar (tx : TokenTransaction) : Prop := ∀ write ∈ tx.writes, write.KeepsPending

/-- The token has passed its check. -/
def TokenReads.Checked (reads : TokenReads) (kind : TokenKind) (token : TokenRow) : Prop :=
  (kind.assertAvailable token reads.checkedAt).isOk = true

/-- Every pending token that the revocation found is saved by one of these writes. -/
def TokenReads.SavedBy (reads : TokenReads) (kind : TokenKind) (writes : List TokenWrite) : Prop :=
  ∀ id ∈ reads.selected, ∃ write ∈ writes, write.Saves kind id

/-- A transaction that sets a password has checked and saved its token. -/
def TokenPurpose.SavedIn (purpose : TokenPurpose) (kind : TokenKind) (reads : TokenReads)
    (tx : TokenTransaction) : Prop :=
  match purpose with
  | .consume token => (∃ write ∈ tx.writes, write.Saves kind token.id) ∧ reads.Checked kind token
  | .issue _ _ => True

/-- What a pending call has read and written. -/
def HasWritten (reads : TokenReads) : PendingTokenCall → Prop
  | .findingUser tx kind _ token | .savingUser tx kind token _ | .savingToken tx kind token =>
      KeepsPendingSoFar tx ∧ reads.Checked kind token
  | .updatingUser tx _ _ | .insertingUser tx _ _ => KeepsPendingSoFar tx
  | .findingPending tx kind purpose => KeepsPendingSoFar tx ∧ purpose.SavedIn kind reads tx
  | .savingPending tx kind purpose entities =>
      KeepsPendingSoFar tx ∧ purpose.SavedIn kind reads tx ∧
        (∀ entity ∈ entities, entity.status ≠ .pending) ∧
        ∀ id ∈ reads.selected, ∃ entity ∈ entities, entity.id = id
  | .insertingToken tx kind _ _ => KeepsPendingSoFar tx ∧ reads.SavedBy kind tx.writes
  | .committingChange tx kind token =>
      KeepsPendingSoFar tx ∧ (∃ write ∈ tx.writes, write.Saves kind token.id) ∧
        reads.Checked kind token
  | .committingIssue tx kind token =>
      ∃ earlier, tx.writes = earlier ++ [.insertToken kind token] ∧
        (∀ write ∈ earlier, write.KeepsPending) ∧ reads.SavedBy kind earlier

theorem keepsPendingSoFar_concat {tx tx' : TokenTransaction} (h : KeepsPendingSoFar tx)
    (hwrite : write.KeepsPending) (hwrites : tx'.writes = tx.writes ++ [write]) :
    KeepsPendingSoFar tx' := by
  intro other hother
  rw [hwrites] at hother
  rcases List.mem_append.mp hother with hold | hnew
  · exact h other hold
  · rw [List.mem_singleton.mp hnew]
    exact hwrite

/-- A transaction that has made no token pending sees no pending token that is not committed. -/
theorem pending_of_view {tx : TokenTransaction} (htx : KeepsPendingSoFar tx) {row : TokenRow}
    (hrow : row ∈ ((tx.view tokenStatements d).tokens kind).rows)
    (hpending : row.status = .pending) :
    row ∈ (d.tokens kind).rows := by
  by_contra hnot
  have hkept : row ∉ ((tx.view tokenStatements d).tokens kind).rows := by
    refine view_keeps (I := fun d : TokenTables => row ∉ (d.tokens kind).rows)
      (fun write hwrite d hd hmem => ?_) hnot
    exact hd (pending_of_apply (htx write hwrite) hmem hpending)
  exact hkept hrow

/-- The token that a transaction has saved is not pending for it. -/
theorem notPending_view {tx : TokenTransaction} (htx : KeepsPendingSoFar tx)
    (hsaved : ∃ write ∈ tx.writes, write.Saves kind tokenId) (d : TokenTables) :
    (tx.view tokenStatements d).NotPending kind tokenId := by
  obtain ⟨write, hwrite, hsaves⟩ := hsaved
  exact view_establishes (fun other hother d => notPending_apply (htx other hother)) hwrite
    (notPending_of_saves (htx write hwrite) hsaves) d

theorem isSome_view (tx : TokenTransaction) (h : ((d.tokens kind).get tokenId).isSome = true) :
    (((tx.view tokenStatements d).tokens kind).get tokenId).isSome = true :=
  view_keeps (I := fun d : TokenTables => ((d.tokens kind).get tokenId).isSome = true)
    (fun write _ _ => isSome_apply write) h

/-- The tokens that `revokePendingInvitations` saves are not pending. -/
theorem pendingRevoked_status {rows : List TokenRow} {userId : Uuid} {excludeId : Option Uuid}
    {now : ℤ}
    (hexclude : ∀ row ∈ rows, excludeId = some row.id → row.status ≠ .pending) :
    ∀ entity ∈ pendingRevoked rows userId excludeId now, entity.status ≠ .pending := by
  intro entity hentity
  obtain ⟨row, hrow, rfl⟩ := List.mem_map.mp hentity
  split
  · next hexcluded => exact hexclude row (List.mem_of_mem_filter hrow) hexcluded
  · exact TokenStatus.noConfusion

/-! ## The invariant -/

/-- The record is in order; a pending token is the newest of its user and has changed no
password, and a token that has is in its table. -/
structure TokenInv (w : TokenWorld) : Prop where
  history : Justified TokenFact.Allowed w.history
  pending : ∀ kind, ∀ row ∈ (w.db.committed.tokens kind).rows, row.status = .pending →
    lastWith (issuedTo kind row.userId) w.history = some (.issued kind row) ∧
      ∀ time, .passwordChanged kind row.id time ∉ w.history
  changed : ∀ kind tokenId time, .passwordChanged kind tokenId time ∈ w.history →
    ((w.db.committed.tokens kind).get tokenId).isSome = true

variable {w w' : TokenWorld}

/-- Nothing is committed. -/
theorem TokenInv.of_committed (h : TokenInv w) (hcommitted : w'.db.committed = w.db.committed)
    (hhistory : w'.history = w.history) : TokenInv w' where
  history := hhistory ▸ h.history
  pending := by
    rw [hcommitted, hhistory]
    exact h.pending
  changed := by
    rw [hcommitted, hhistory]
    exact h.changed

/-- **A commit that changes a password**, with a token that is still available. -/
theorem TokenInv.committingChange (h : TokenInv w) {tx : TokenTransaction} {token row : TokenRow}
    (htx : KeepsPendingSoFar tx) (hsaved : ∃ write ∈ tx.writes, write.Saves kind token.id)
    (hrow : (w.db.committed.tokens kind).get token.id = some row)
    (havailable : row.status = .pending ∧ w.clock < row.expiresAt) :
    TokenInv (committing w tx (.passwordChanged kind token.id w.clock)).1 := by
  have hid : row.key = token.id := Table.key_of_get hrow
  obtain ⟨hnewest, hunused⟩ := h.pending kind row (Table.mem_of_get hrow) havailable.1
  constructor
  · refine justified_concat.mpr ⟨h.history, ⟨row, hnewest, hid, havailable.2⟩, ?_⟩
    rw [← hid]
    exact hunused
  · intro otherKind other hother hpending
    have hbefore : other ∈ (w.db.committed.tokens otherKind).rows :=
      pending_of_view htx hother hpending
    obtain ⟨hnewest', hunused'⟩ := h.pending otherKind other hbefore hpending
    refine ⟨(lastWith_append_of_none ?_ w.history).trans hnewest', fun time hmem => ?_⟩
    · intro fact hfact
      rw [List.mem_singleton.mp hfact]
      rfl
    · rcases List.mem_append.mp hmem with hold | hnew
      · exact hunused' time hold
      · -- the token that was used is not pending any more
        obtain ⟨rfl, hsame, -⟩ := TokenFact.passwordChanged.inj (List.mem_singleton.mp hnew)
        exact notPending_view htx hsaved w.db.committed other hother hsame hpending
  · intro otherKind tokenId time hmem
    refine isSome_view tx ?_
    rcases List.mem_append.mp hmem with hold | hnew
    · exact h.changed otherKind tokenId time hold
    · cases List.mem_singleton.mp hnew
      rw [hrow]
      rfl

/-- **A commit that issues a token** and leaves its user no other pending one. -/
theorem TokenInv.committingIssue (h : TokenInv w) {tx : TokenTransaction} {token : TokenRow}
    {earlier : List TokenWrite} (hwrites : tx.writes = earlier ++ [.insertToken kind token])
    (hearlier : ∀ write ∈ earlier, write.KeepsPending)
    (halone : ∀ row ∈ ((tx.view tokenStatements w.db.committed).tokens kind).rows,
      row.userId = token.userId → row.status = .pending → row = token) :
    TokenInv (committing w tx (.issued kind token)).1 := by
  have hbefore : KeepsPendingSoFar ⟨tx.number, earlier⟩ := hearlier
  have hview : tx.view tokenStatements w.db.committed = (TokenWrite.insertToken kind token).apply
      ((Transaction.mk tx.number earlier).view tokenStatements w.db.committed) := by
    rw [Transaction.view, hwrites, List.foldl_append]
    rfl
  have hmem : ∀ otherKind, ∀ row ∈ ((tx.view tokenStatements w.db.committed).tokens
      otherKind).rows, row.status = .pending → row ∈ (w.db.committed.tokens otherKind).rows ∨
        (otherKind = kind ∧ row = token ∧ (w.db.committed.tokens kind).get token.id = none) := by
    intro otherKind row hrow hpending
    rw [hview, TokenWrite.apply] at hrow
    by_cases hkind : otherKind = kind
    · subst hkind
      simp only [Function.update_self] at hrow
      rcases Table.mem_insert hrow with hold | ⟨rfl, hnone⟩
      · exact .inl (pending_of_view hbefore hold hpending)
      · refine .inr ⟨rfl, rfl, ?_⟩
        by_contra hsome
        have hkept := isSome_view ⟨tx.number, earlier⟩ (Option.isSome_iff_ne_none.mpr hsome)
        rw [hnone] at hkept
        cases hkept
    · simp only [Function.update_of_ne hkind] at hrow
      exact .inl (pending_of_view hbefore hrow hpending)
  constructor
  · exact justified_concat.mpr ⟨h.history, trivial⟩
  · intro otherKind row hrow hpending
    have hunchanged : (∀ time, .passwordChanged otherKind row.id time ∉ w.history) →
        ∀ time, .passwordChanged otherKind row.id time ∉ w.history ++ [.issued kind token] := by
      intro hunused time hmem
      rcases List.mem_append.mp hmem with hold | hnew
      · exact hunused time hold
      · cases List.mem_singleton.mp hnew
    by_cases hown : otherKind = kind ∧ row.userId = token.userId
    · obtain ⟨rfl, huser⟩ := hown
      obtain rfl := halone row hrow huser hpending
      refine ⟨lastWith_concat (by simp [issuedTo]) w.history, hunchanged ?_⟩
      rcases hmem otherKind row hrow hpending with hold | ⟨-, -, hnone⟩
      · exact (h.pending otherKind row hold hpending).2
      · -- a token that was not there has changed no password
        intro time hchanged
        have hpresent := h.changed otherKind row.id time hchanged
        rw [hnone] at hpresent
        cases hpresent
    · rcases hmem otherKind row hrow hpending with hold | ⟨rfl, rfl, -⟩
      · obtain ⟨hnewest, hunused⟩ := h.pending otherKind row hold hpending
        refine ⟨(lastWith_append_of_none ?_ w.history).trans hnewest, hunchanged hunused⟩
        intro fact hfact
        rw [List.mem_singleton.mp hfact]
        by_cases hkind : otherKind = kind
        · have huser : token.userId ≠ row.userId := fun heq => hown ⟨hkind, heq.symm⟩
          simp [issuedTo, huser]
        · simp [issuedTo, Ne.symm hkind]
      · exact absurd ⟨rfl, rfl⟩ hown
  · intro otherKind tokenId time hmem
    refine isSome_view tx ?_
    rcases List.mem_append.mp hmem with hold | hnew
    · exact h.changed otherKind tokenId time hold
    · cases List.mem_singleton.mp hnew

/-- The revoked tokens are not pending, so the token that is inserted is alone. -/
theorem alone_of_savedBy {reads : TokenReads} {tx : TokenTransaction} {token : TokenRow}
    {earlier : List TokenWrite} (hwrites : tx.writes = earlier ++ [.insertToken kind token])
    (hearlier : ∀ write ∈ earlier, write.KeepsPending) (hrevoked : reads.SavedBy kind earlier)
    (hselected : ∀ row ∈ (w.db.committed.tokens kind).rows, row.userId = token.userId →
      row.status = .pending → row.id ∈ reads.selected) :
    ∀ row ∈ ((tx.view tokenStatements w.db.committed).tokens kind).rows,
      row.userId = token.userId → row.status = .pending → row = token := by
  intro row hrow huser hpending
  have hbefore : KeepsPendingSoFar ⟨tx.number, earlier⟩ := hearlier
  have hview : tx.view tokenStatements w.db.committed = (TokenWrite.insertToken kind token).apply
      ((Transaction.mk tx.number earlier).view tokenStatements w.db.committed) := by
    rw [Transaction.view, hwrites, List.foldl_append]
    rfl
  rw [hview, TokenWrite.apply] at hrow
  simp only [Function.update_self] at hrow
  rcases Table.mem_insert hrow with hold | ⟨rfl, -⟩
  · have hcommitted : row ∈ (w.db.committed.tokens kind).rows :=
      pending_of_view hbefore hold hpending
    have hsaved := hrevoked row.id (hselected row hcommitted huser hpending)
    exact absurd hpending (notPending_view hbefore hsaved w.db.committed row hold rfl)
  · rfl

/-! ## The steps -/

variable {reads : TokenReads}

/-- A step that commits nothing, and what its call has read and written after it. -/
structure Quiet (w : TokenWorld) (reads : TokenReads) (next : TokenStep) : Prop where
  committed : next.1.db.committed = w.db.committed
  history : next.1.history = w.history
  written : ∀ call, next.2 = some call → HasWritten reads call

theorem quiet_ended : Quiet w reads (w, none) :=
  ⟨rfl, rfl, fun _ hnext => absurd hnext (by simp)⟩

theorem quiet_rolledBack (tx : TokenTransaction) : Quiet w reads (rolledBack w tx) :=
  ⟨rfl, rfl, fun _ hnext => absurd hnext (by simp [rolledBack])⟩

theorem quiet_next {call : PendingTokenCall} (hcall : HasWritten reads call) :
    Quiet w reads (w, some call) :=
  ⟨rfl, rfl, fun _ hnext => Option.some.inj hnext ▸ hcall⟩

theorem quiet_withTransaction {first : TokenTransaction → PendingTokenCall}
    (hfirst : ∀ tx, KeepsPendingSoFar tx → HasWritten reads (first tx)) :
    Quiet w reads (withTransaction w first) :=
  ⟨rfl, rfl, fun _ hnext =>
    Option.some.inj hnext ▸ hfirst _ fun _ hwrite => absurd hwrite List.not_mem_nil⟩

theorem quiet_writing {call : PendingTokenCall} {next : TokenTransaction → PendingTokenCall}
    (hcall : HasWritten reads call)
    (hnext : ∀ tx : TokenTransaction, tx.writes = call.tx.writes ++ [write] →
      HasWritten reads (next tx)) : Quiet w reads (writing w call write next) := by
  unfold writing
  split
  · exact quiet_next hcall
  · next db tx hwritten =>
      obtain ⟨hcommitted, hwrites⟩ := write_eq_some hwritten
      exact ⟨hcommitted, rfl, fun _ hsome => Option.some.inj hsome ▸ hnext tx hwrites⟩

/-- The same for a write that makes no token pending. -/
theorem quiet_keeping {call : PendingTokenCall} {next : TokenTransaction → PendingTokenCall}
    (hcall : HasWritten reads call) (htx : KeepsPendingSoFar call.tx) (hwrite : write.KeepsPending)
    (hnext : ∀ tx : TokenTransaction, KeepsPendingSoFar tx →
      tx.writes = call.tx.writes ++ [write] → HasWritten reads (next tx)) :
    Quiet w reads (writing w call write next) :=
  quiet_writing hcall fun tx hwrites =>
    hnext tx (keepsPendingSoFar_concat htx hwrite hwrites) hwrites

@[simp] theorem next_checkedAt (reads : TokenReads) (call : PendingTokenCall) (w : TokenWorld) :
    (reads.next call w).checkedAt = reads.checkedAt := by
  unfold TokenReads.next
  split
  · rfl
  · rfl

theorem TokenPurpose.SavedIn.concat {purpose : TokenPurpose} {tx tx' : TokenTransaction}
    (h : purpose.SavedIn kind reads tx) (hwrites : tx'.writes = tx.writes ++ [write]) :
    purpose.SavedIn kind reads tx' := by
  cases purpose with
  | consume token =>
      obtain ⟨⟨saved, hsaved, hsaves⟩, hchecked⟩ := h
      exact ⟨⟨saved, hwrites ▸ List.mem_append_left _ hsaved, hsaves⟩, hchecked⟩
  | issue userId issuedAt => exact trivial

theorem TokenPurpose.SavedIn.of_checkedAt {purpose : TokenPurpose} {tx : TokenTransaction}
    {reads' : TokenReads} (h : purpose.SavedIn kind reads tx)
    (hreads : reads'.checkedAt = reads.checkedAt) : purpose.SavedIn kind reads' tx := by
  cases purpose with
  | consume token =>
      refine ⟨h.1, ?_⟩
      rw [TokenReads.Checked, hreads]
      exact h.2
  | issue userId issuedAt => exact trivial

theorem hasWritten_afterRevocation {purpose : TokenPurpose} {tx : TokenTransaction}
    (htx : KeepsPendingSoFar tx) (hsaved : purpose.SavedIn kind reads tx)
    (hrevoked : reads.SavedBy kind tx.writes) :
    HasWritten reads (afterRevocation kind purpose tx) := by
  cases purpose with
  | consume token => exact ⟨htx, hsaved.1, hsaved.2⟩
  | issue userId issuedAt => exact ⟨htx, hrevoked⟩

section Calls

variable {Token : Type} {platform : TokenPlatform Token}

theorem quiet_consumeToken (kind : TokenKind) (token password : String) :
    Quiet w { checkedAt := w.clock } (consumeToken platform w kind token password) := by
  unfold consumeToken
  split
  · exact quiet_ended
  · next found _ =>
      split
      · exact quiet_ended
      · next havailable =>
          refine quiet_withTransaction fun tx htx => ⟨htx, ?_⟩
          rw [TokenReads.Checked, havailable]
          rfl

/-- **The first step of a call** commits nothing. -/
theorem quiet_invoke (request : TokenRequest) (input : TokenInput) (w : TokenWorld) :
    Quiet w { checkedAt := w.clock } (invokeToken platform request input w) := by
  cases request with
  | acceptInvitation token password => exact quiet_consumeToken .invitation token password
  | resetPassword token password => exact quiet_consumeToken .passwordReset token password
  | requestPasswordReset email =>
      simp only [invokeToken]
      split
      · exact quiet_ended
      · exact quiet_withTransaction fun tx htx => ⟨htx, trivial⟩
  | resendInvite userId =>
      simp only [invokeToken]
      split
      · exact quiet_ended
      · split
        · exact quiet_ended
        · exact quiet_withTransaction fun tx htx => htx
  | create email name role =>
      simp only [invokeToken]
      split
      · exact quiet_ended
      · split
        · exact quiet_ended
        · split
          · exact quiet_ended
          · exact quiet_withTransaction fun tx htx => htx

/-- The tokens that are found to be revoked do not include one that the transaction saved. -/
theorem pendingRevoked_of_savedIn {purpose : TokenPurpose} {tx : TokenTransaction} {now : ℤ}
    (htx : KeepsPendingSoFar tx) (hsaved : purpose.SavedIn kind reads tx) :
    ∀ entity ∈ pendingRevoked ((tx.view tokenStatements d).tokens kind).rows purpose.userId
      purpose.excludeId now, entity.status ≠ .pending := by
  refine pendingRevoked_status fun row hrow hexclude => ?_
  cases purpose with
  | consume token =>
      exact notPending_view htx hsaved.1 d row hrow (Option.some.inj hexclude).symm
  | issue userId issuedAt => cases hexclude

/-- **The revocation** is about the tokens that its query found. -/
theorem quiet_findingPending {purpose : TokenPurpose} {tx : TokenTransaction} {input : TokenInput}
    (htx : KeepsPendingSoFar tx) (hsaved : purpose.SavedIn kind reads tx) :
    Quiet w (reads.next (.findingPending tx kind purpose) w)
      (continueToken platform (.findingPending tx kind purpose) input w) := by
  have hsaved' := hsaved.of_checkedAt (next_checkedAt reads (.findingPending tx kind purpose) w)
  simp only [continueToken]
  split
  · next hnone =>
      refine quiet_next (hasWritten_afterRevocation htx hsaved' fun id hid => ?_)
      -- nothing was found
      rw [List.isEmpty_iff, pendingRevoked, List.map_eq_nil_iff] at hnone
      simp only [TokenReads.next, hnone, List.map_nil] at hid
      exact absurd hid List.not_mem_nil
  · refine quiet_next ⟨htx, hsaved', pendingRevoked_of_savedIn htx hsaved, fun id hid => ?_⟩
    obtain ⟨row, hrow, rfl⟩ := List.mem_map.mp hid
    refine ⟨_, List.mem_map_of_mem hrow, ?_⟩
    split
    · rfl
    · rfl

/-- A later step of a call, except a commit, commits nothing. -/
theorem quiet_continue {call : PendingTokenCall} {input : TokenInput}
    (hcall : HasWritten reads call)
    (hchange : ∀ tx kind token, call ≠ .committingChange tx kind token)
    (hissue : ∀ tx kind token, call ≠ .committingIssue tx kind token) :
    Quiet w (reads.next call w) (continueToken platform call input w) := by
  cases call with
  | findingUser tx kind password token =>
      simp only [continueToken]
      split
      · exact quiet_rolledBack tx
      · split
        · exact quiet_rolledBack tx
        · exact quiet_next hcall
  | savingUser tx kind token entity =>
      exact quiet_keeping hcall hcall.1 trivial fun tx' htx' _ => ⟨htx', hcall.2⟩
  | savingToken tx kind token =>
      refine quiet_keeping hcall hcall.1 (fun entity hentity => ?_)
        fun tx' htx' hwrites => ⟨htx', ?_, hcall.2⟩
      · rw [List.mem_singleton.mp hentity]
        exact TokenStatus.noConfusion
      · refine ⟨_, hwrites ▸ List.mem_append_right _ (List.mem_singleton.mpr rfl), ?_⟩
        exact ⟨rfl, _, List.mem_singleton.mpr rfl, rfl⟩
  | updatingUser tx userId issuedAt =>
      exact quiet_keeping hcall hcall trivial fun tx' htx' _ => ⟨htx', trivial⟩
  | insertingUser tx user issuedAt =>
      simp only [continueToken]
      split
      · exact quiet_rolledBack tx
      · exact quiet_keeping hcall hcall trivial fun tx' htx' _ => ⟨htx', trivial⟩
  | findingPending tx kind purpose => exact quiet_findingPending hcall.1 hcall.2
  | savingPending tx kind purpose entities =>
      refine quiet_keeping hcall hcall.1 hcall.2.2.1 fun tx' htx' hwrites => ?_
      refine hasWritten_afterRevocation htx' (hcall.2.1.concat hwrites) fun id hid => ?_
      have hlast : TokenWrite.saveTokens kind entities ∈ tx'.writes :=
        hwrites ▸ List.mem_append_right _ (List.mem_singleton.mpr rfl)
      exact ⟨_, hlast, rfl, hcall.2.2.2 id hid⟩
  | insertingToken tx kind userId issuedAt =>
      simp only [continueToken]
      split
      · exact quiet_rolledBack tx
      · exact quiet_writing hcall fun tx' hwrites => ⟨tx.writes, hwrites, hcall⟩
  | committingChange tx kind token => exact absurd rfl (hchange tx kind token)
  | committingIssue tx kind token => exact absurd rfl (hissue tx kind token)

/-- What its check has said of a token, its commit can rely on. -/
theorem available_of_checked {token : TokenRow} (hchecked : reads.Checked kind token)
    (hexpires : reads.checkedAt < token.expiresAt → w.clock < token.expiresAt) :
    token.status = .pending ∧ w.clock < token.expiresAt := by
  obtain ⟨hstatus, hvalid⟩ := assertAvailable_isOk.mp hchecked
  exact ⟨hstatus, hexpires hvalid⟩

/-- **A later step of a call** keeps the invariant, under the condition on commits. -/
theorem tokenInv_resume (h : TokenInv w) {call : PendingTokenCall} {input : TokenInput}
    (hcall : HasWritten reads call) (hguard : CommitsFindReads w (call, reads) input) :
    TokenInv (resumeToken platform call input w).1 ∧
      ∀ call', (resumeToken platform call input w).2 = some call' →
        HasWritten (reads.next call w) call' := by
  have hquiet : ∀ {next : TokenStep}, Quiet w (reads.next call w) next →
      TokenInv next.1 ∧ ∀ call', next.2 = some call' → HasWritten (reads.next call w) call' :=
    fun hnext => ⟨h.of_committed hnext.committed hnext.history, hnext.written⟩
  unfold resumeToken
  cases hfails : input.fails with
  | true => exact hquiet (quiet_rolledBack call.tx)
  | false =>
      simp only [Bool.false_eq_true, if_false]
      cases call with
      | committingChange tx kind token =>
          obtain ⟨hrow, hexpires⟩ := hguard.resolve_left (by simp [hfails])
          refine ⟨h.committingChange hcall.1 hcall.2.1 hrow
            (available_of_checked hcall.2.2 hexpires), ?_⟩
          exact fun _ hnext => absurd hnext (by simp [continueToken, committing])
      | committingIssue tx kind token =>
          obtain ⟨earlier, hwrites, hearlier, hrevoked⟩ := hcall
          have halone := alone_of_savedBy hwrites hearlier hrevoked
            (hguard.resolve_left (by simp [hfails]))
          refine ⟨h.committingIssue hwrites hearlier halone, ?_⟩
          exact fun _ hnext => absurd hnext (by simp [continueToken, committing])
      | _ => exact hquiet (quiet_continue hcall (by simp) (by simp))

variable (platform)

/-- The proof outline of the calls. -/
theorem token_outline :
    Outline (readingTokenCalls platform) tokenEnv (fun _ _ _ => True) CommitsFindReads
      (fun _ _ => True) TokenInv fun _ call => HasWritten call.2 call.1 := by
  refine outline_remembering ?_ (fun h hcall hguard => tokenInv_resume h hcall hguard)
    (fun h _ => h.of_committed rfl rfl) (fun _ _ hcall => hcall) (fun _ _ _ hother => hother)
    fun _ _ hcall => hcall
  intro w request input h _
  have hquiet := @quiet_invoke Token platform request input w
  exact ⟨h.of_committed hquiet.committed hquiet.history, hquiet.written⟩

end Calls

/-! ## Single use -/

/-- The users, before any token is issued. -/
def noTokens (users : Table UserRow.key) (clock : ℤ) : TokenWorld where
  db := { committed := { users := users, tokens := fun _ => Table.empty } }
  clock := clock

theorem tokenInv_noTokens (users : Table UserRow.key) (clock : ℤ) :
    TokenInv (noTokens users clock) where
  history := justified_nil
  pending _ _ hrow := absurd hrow List.not_mem_nil
  changed _ _ _ hmem := absurd hmem List.not_mem_nil

/-- **Tokens are single-use** in every run, over any users and with any transactions
interleaved query by query, whose commits find what their transactions have read: each
password change is the first by its token, by the newest of its user, and in time. -/
theorem tokens_singleUse {Token : Type} (platform : TokenPlatform Token)
    (users : Table UserRow.key) (clock : ℤ) (es : List TokenEvent)
    (hes : Along (step (readingTokenCalls platform) tokenEnv) (ResumeGuard CommitsFindReads)
      (Config.idle (noTokens users clock)) es) :
    Justified TokenFact.Allowed
      (run (tokenStep platform) (Config.idle (noTokens users clock)) es).world.history :=
  ((token_outline platform).run_remembering (tokenInv_noTokens users clock) hes).history

/-- A token, as `issueOpaqueToken` draws one. -/
def sampleSecret : String := "AAECAwQFBgcICQoLDA0ODxAREhMUFRYXGBkaGxwdHh8"

/-- bcrypt of it. -/
def sampleTokenHash : String := "$2b$12$abcdefghijklmnopqrstuu.drVYl9exJxYfjcR6Km31ctQWs4tA5K"

/-- The platform of the sample runs: bcrypt and SHA-256 on the token, bcrypt on the password. -/
def sampleTokenPlatform : TokenPlatform (JwtPayload × ℤ × ℤ) where
  toAccountPlatform := { sampleAccountPlatform with
    compare := fun text hash =>
      samplePlatform.compare text hash || (text = sampleSecret && hash = sampleTokenHash)
    hash := fun _ text =>
      if text = sampleSecret then sampleTokenHash
      else "$2b$12$abcdefghijklmnopqrstuuKeojm9r2xP5kjlBzu7YmwyiZhZwmYVe" }
  createOpaqueTokenLookupHash text :=
    if text = sampleSecret then "ea866a757e4c38babfa8127cbe9a409d3e1f93a00ff1488ff735fcf917afffd0"
    else ""

/-- An invited user. -/
def invitedUsers : Table UserRow.key where
  rows :=
    [{ id := "u1", email := "admin@example.com", isActive := false, inviteStatus := .pending }]
  distinct := List.nodup_singleton _

/-- `resendInvite`, from its start to its commit. -/
def invitationIssued : List TokenEvent :=
  [.invoke 0 (.resendInvite "u1") {},
    .resume 0 {},
    .resume 0 {},
    .resume 0 { id := "t1", secret := sampleSecret },
    .resume 0 {}]

/-- The invitation is accepted. -/
def acceptanceRun : List TokenEvent :=
  invitationIssued ++
    [.invoke 1 (.acceptInvitation sampleSecret "ChangeMe123!") {},
      .resume 1 {}, .resume 1 {}, .resume 1 {}, .resume 1 {}, .resume 1 {}]

theorem tokens_singleUse_acceptance :
    .passwordChanged .invitation "t1" 0 ∈ (run (tokenStep sampleTokenPlatform)
        (Config.idle (noTokens invitedUsers 0)) acceptanceRun).world.history ∧
      Justified TokenFact.Allowed (run (tokenStep sampleTokenPlatform)
        (Config.idle (noTokens invitedUsers 0)) acceptanceRun).world.history :=
  ⟨by decide +kernel, tokens_singleUse sampleTokenPlatform invitedUsers 0 acceptanceRun
    (by decide +kernel)⟩

/-- Two calls accept the same invitation; the first one runs while the second is between the
check of the token and the save of the user. -/
def doubleAcceptanceRun : List TokenEvent :=
  invitationIssued ++
    [.invoke 1 (.acceptInvitation sampleSecret "ChangeMe123!") {},
      .resume 1 {},
      .invoke 2 (.acceptInvitation sampleSecret "Another456!") {},
      .resume 2 {},
      .resume 1 {}, .resume 1 {}, .resume 1 {}, .resume 1 {},
      .resume 2 {}, .resume 2 {}, .resume 2 {}, .resume 2 {}]

/-- Both change the password. -/
theorem doubleAcceptance_changesTwice :
    ¬ ∀ {Token : Type} (platform : TokenPlatform Token) (users : Table UserRow.key) (clock : ℤ)
      (es : List TokenEvent), Justified TokenFact.Allowed
        (run (tokenStep platform) (Config.idle (noTokens users clock)) es).world.history := by
  intro hall
  have hhistory : (run (tokenStep sampleTokenPlatform) (Config.idle (noTokens invitedUsers 0))
      doubleAcceptanceRun).world.history =
        [.issued .invitation (issuedToken sampleTokenPlatform .invitation "u1" 0
            { id := "t1", secret := sampleSecret }),
          .passwordChanged .invitation "t1" 0] ++ [.passwordChanged .invitation "t1" 0] := by
    decide +kernel
  have hallowed := hall sampleTokenPlatform invitedUsers 0 doubleAcceptanceRun
  rw [hhistory] at hallowed
  have hsecond := (justified_concat.mp hallowed).2.2 0
  exact hsecond (List.mem_cons_of_mem _ (List.mem_singleton.mpr rfl))

end UsersService
