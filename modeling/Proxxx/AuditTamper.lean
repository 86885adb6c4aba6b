/-
What an ideal tag function makes of tampering with the audit log.  The fields
of a row are joined by a bar without escaping, and an absent node or parameter
text is the empty text, so the tag binds the stored fields of a row exactly if
no field contains a bar and both optional fields are present and not empty.
The order of the rows is bound without any such condition.
-/
import Proxxx.AuditLog

namespace Proxxx

open TagChain StepSystem List

/-- The fields a reader of the log sees. -/
def RawAuditRow.stored (row : RawAuditRow) :
    String × String × String × Option Int × Option String × Option String × String :=
  (row.ts, row.action, row.user, row.vmid, row.node, row.paramsJson, row.result)

/-- The same tags and key labels in the same order, whatever else is stored. -/
def SameTags (rows rows' : List RawAuditRow) : Prop :=
  rows'.map (fun row => (row.chainHmac, row.keyId)) = rows.map fun row => (row.chainHmac, row.keyId)

/-- An optional field that is present, not empty and free of bars. -/
def PlainText (field : Option String) : Prop :=
  ∃ text, field = some text ∧ text ≠ "" ∧ '|' ∉ text.toList

/-- The joined fields of the row have one reading only. -/
structure RawAuditRow.Unambiguous (row : RawAuditRow) : Prop where
  action : '|' ∉ row.action.toList
  user : '|' ∉ row.user.toList
  node : PlainText row.node
  paramsJson : PlainText row.paramsJson
  result : '|' ∉ row.result.toList

instance plainTextDecidable : DecidablePred PlainText
  | none => isFalse (by simp [PlainText])
  | some text => decidable_of_iff (text ≠ "" ∧ '|' ∉ text.toList) (by simp [PlainText])

instance unambiguousDecidable : DecidablePred RawAuditRow.Unambiguous := fun row =>
  decidable_of_iff ('|' ∉ row.action.toList ∧ '|' ∉ row.user.toList ∧ PlainText row.node ∧
      PlainText row.paramsJson ∧ '|' ∉ row.result.toList)
    ⟨fun ⟨haction, huser, hnode, hparams, hresult⟩ =>
      ⟨haction, huser, hnode, hparams, hresult⟩,
    fun hrow => ⟨hrow.action, hrow.user, hrow.node, hrow.paramsJson, hrow.result⟩⟩

theorem IsHexText.bar_notMem {text : String} (htext : IsHexText text) : '|' ∉ text.toList :=
  fun hmem => absurd (htext _ hmem) (by decide)

theorem isHexText_empty : IsHexText "" := by simp [IsHexText]

/-- The leading `v2` keeps the two formats apart: a tag is never `v…`. -/
theorem v1Message_ne_v2Message {prev : String} (hprev : IsHexText prev)
    (ts action vmid result before ts' action' user vmid' node params result' : String) :
    v1Message prev ts action vmid result ≠
      v2Message before ts' action' user vmid' node params result' := by
  intro heq
  have hlist := congrArg String.toList heq
  rw [toList_v1Message, toList_v2Message] at hlist
  simp only [map_cons, intercalate_cons_cons] at hlist
  cases hchars : prev.toList with
  | nil => simp [hchars] at hlist
  | cons c rest =>
    have hv : c = 'v' := by
      simp only [hchars, cons_append] at hlist
      exact (List.cons.inj hlist).1
    have hmem := hprev c (by simp [hchars])
    rw [hv] at hmem
    exact absurd hmem (by decide)

theorem PlainText.bar_notMem {field : Option String} (hfield : PlainText field) :
    '|' ∉ (field.getD "").toList := by
  obtain ⟨text, rfl, -, hbar⟩ := hfield
  exact hbar

theorem PlainText.eq_of_getD_eq {field field' : Option String}
    (hfield : PlainText field) (heq : field.getD "" = field'.getD "") :
    field' = field := by
  obtain ⟨text, rfl, hne, -⟩ := hfield
  cases field' with
  | none => exact absurd heq hne
  | some text' => exact congrArg some heq.symm

section Fields

variable {mac : Mac} {row other : RawAuditRow} {prev : String} {key : Key}

/-- The message the current format tags. -/
def RawAuditRow.message (row : RawAuditRow) (prev : String) : String :=
  v2Message prev row.ts row.action row.user (vmidText row.vmid)
    (row.node.getD "") (row.paramsJson.getD "") row.result

theorem expectedHmac_v2 (hversion : row.chainVersion = chainV2) : expectedHmac mac row prev key =
    HexText.encode (mac.tag key (row.message prev)) := by
  simp [expectedHmac, hversion, computeHmacV2, RawAuditRow.message]

theorem expectedHmac_v1 (hversion : row.chainVersion ≠ chainV2) :
    expectedHmac mac row prev key = HexText.encode (mac.tag key
      (v1Message prev row.ts row.action (vmidText row.vmid) row.result)) := by
  simp [expectedHmac, hversion, computeHmac]

theorem RawAuditRow.Unambiguous.bar_notMem_fields (hrow : row.Unambiguous)
    (hprev : IsHexText prev) (hts : '|' ∉ row.ts.toList) :
    ∀ field ∈ ["v2", prev, row.ts, row.action, row.user, vmidText row.vmid,
      row.node.getD "", row.paramsJson.getD "", row.result].map String.toList,
      '|' ∉ field := by
  intro field hfield
  obtain ⟨text, htext, rfl⟩ := mem_map.mp hfield
  simp only [mem_cons, not_mem_nil, or_false] at htext
  rcases htext with rfl | rfl | rfl | rfl | rfl | rfl | rfl | rfl | rfl
  exacts [by decide, hprev.bar_notMem, hts, hrow.action, hrow.user,
    bar_notMem_vmidText row.vmid, hrow.node.bar_notMem,
    hrow.paramsJson.bar_notMem, hrow.result]

/-- A row that is read in only one way is bound by its tag. -/
theorem stored_eq_of_expectedHmac_eq (hideal : mac.Ideal)
    (hprev : IsHexText prev) (hversion : row.chainVersion = chainV2)
    (hts : '|' ∉ row.ts.toList) (hrow : row.Unambiguous)
    (heq : expectedHmac mac other prev key = expectedHmac mac row prev key) :
    other.stored = row.stored := by
  rw [expectedHmac_v2 hversion] at heq
  by_cases hother : other.chainVersion = chainV2
  · rw [expectedHmac_v2 hother] at heq
    have hmessage := hideal key _ _ (HexText.encode_injective heq)
    have hlist := congrArg String.toList hmessage.symm
    rw [RawAuditRow.message, RawAuditRow.message, toList_v2Message, toList_v2Message] at hlist
    have hfields := SeparatedFields.intercalate_inj_of_notMem (by rfl)
      (hrow.bar_notMem_fields hprev hts) hlist
    simp only [map_cons, map_nil, List.cons.injEq, true_and, and_true, String.toList_inj] at hfields
    obtain ⟨hts', haction, huser, hvmid, hnode, hparams, hresult⟩ := hfields
    simp only [RawAuditRow.stored, ← hts', ← haction, ← huser, ← hresult,
      vmidText_injective hvmid, hrow.node.eq_of_getD_eq hnode,
      hrow.paramsJson.eq_of_getD_eq hparams]
  · rw [expectedHmac_v1 hother] at heq
    exact absurd (hideal key _ _ (HexText.encode_injective heq))
      (v1Message_ne_v2Message hprev _ _ _ _ _ _ _ _ _ _ _ _)

theorem exists_split_of_bar {text : String} (hbar : '|' ∈ text.toList) :
    ∃ left right, text = left ++ "|" ++ right := by
  obtain ⟨left, right, hlist⟩ := append_of_mem hbar
  refine ⟨String.ofList left, String.ofList right, ?_⟩
  apply String.toList_inj.mp
  simp [hlist]

theorem append_bar_ne (text right : String) : text ++ "|" ++ right ≠ text := by
  intro heq
  have hlength := congrArg (fun text => text.toList.length) heq
  simp at hlength

/-- A second row with the same tag, label and tag message. -/
structure Lookalike (row other : RawAuditRow) : Prop where
  chainHmac : other.chainHmac = row.chainHmac
  keyId : other.keyId = row.keyId
  expected : ∀ mac prev key, expectedHmac mac other prev key = expectedHmac mac row prev key
  stored : other.stored ≠ row.stored

/-- The other reading of an optional field: absent for empty, empty for
absent. -/
theorem exists_other_blank {field : Option String} (hfield : field.getD "" = "") :
    ∃ field', field'.getD "" = field.getD "" ∧ field' ≠ field := by
  cases field with
  | none => exact ⟨some "", rfl, by simp⟩
  | some text => exact ⟨none, hfield.symm, by simp⟩

/-- A field is plain, or it is blank, or a bar splits it. -/
theorem plainText_or (field : Option String) : PlainText field ∨ field.getD "" = "" ∨
    ∃ left right, field = some (left ++ "|" ++ right) := by
  cases field with
  | none => exact Or.inr (Or.inl rfl)
  | some text =>
    by_cases hempty : text = ""
    · exact Or.inr (Or.inl hempty)
    · by_cases hbar : '|' ∈ text.toList
      · obtain ⟨left, right, rfl⟩ := exists_split_of_bar hbar
        exact Or.inr (Or.inr ⟨left, right, rfl⟩)
      · exact Or.inl ⟨text, rfl, hempty, hbar⟩

/-- A row that is not read in one way only has a lookalike. -/
theorem exists_lookalike (hversion : row.chainVersion = chainV2)
    (hrow : ¬row.Unambiguous) : ∃ other, Lookalike row other := by
  by_contra hnone
  have hlookalike : ∀ other : RawAuditRow, other.chainVersion = chainV2 →
      other.chainHmac = row.chainHmac → other.keyId = row.keyId →
      (∀ prev, other.message prev = row.message prev) →
      other.stored = row.stored := by
    intro other hother hchainHmac hkeyId hmessage
    by_contra hstored
    refine hnone ⟨other, hchainHmac, hkeyId, fun mac prev key => ?_, hstored⟩
    rw [expectedHmac_v2 hversion, expectedHmac_v2 hother, hmessage prev]
  apply hrow
  refine ⟨?_, ?_, ?_, ?_, ?_⟩
  -- A bar in a field lets a neighbour take over what stands on one side of it.
  · intro hbar
    obtain ⟨left, right, htext⟩ := exists_split_of_bar hbar
    have heq := hlookalike
      { row with ts := row.ts ++ "|" ++ left, action := right } hversion rfl
      rfl (fun prev => by simp [RawAuditRow.message, v2Message, htext, String.append_assoc])
    simp [RawAuditRow.stored, append_bar_ne] at heq
  · intro hbar
    obtain ⟨left, right, htext⟩ := exists_split_of_bar hbar
    have heq := hlookalike
      { row with action := row.action ++ "|" ++ left, user := right } hversion
      rfl rfl (fun prev => by simp [RawAuditRow.message, v2Message, htext, String.append_assoc])
    simp [RawAuditRow.stored, append_bar_ne] at heq
  · rcases plainText_or row.node with hplain | hblank | ⟨left, right, htext⟩
    · exact hplain
    · obtain ⟨field, hfield, hne⟩ := exists_other_blank hblank
      have heq := hlookalike { row with node := field } hversion rfl rfl
        (fun prev => by simp [RawAuditRow.message, hfield])
      simp [RawAuditRow.stored, hne] at heq
    · have heq := hlookalike { row with
          node := some left, paramsJson := some (right ++ "|" ++ row.paramsJson.getD "") }
        hversion rfl rfl (fun prev => by
          simp [RawAuditRow.message, v2Message, htext, String.append_assoc])
      simp only [RawAuditRow.stored, htext, Prod.mk.injEq] at heq
      exact absurd (Option.some.inj heq.2.2.2.2.1).symm (append_bar_ne left right)
  · rcases plainText_or row.paramsJson with hplain | hblank |
      ⟨left, right, htext⟩
    · exact hplain
    · obtain ⟨field, hfield, hne⟩ := exists_other_blank hblank
      have heq := hlookalike { row with paramsJson := field } hversion rfl rfl
        (fun prev => by simp [RawAuditRow.message, hfield])
      simp [RawAuditRow.stored, hne] at heq
    · have heq := hlookalike { row with
          paramsJson := some left, result := right ++ "|" ++ row.result }
        hversion rfl rfl (fun prev => by
          simp [RawAuditRow.message, v2Message, htext, String.append_assoc])
      simp only [RawAuditRow.stored, htext, Prod.mk.injEq] at heq
      exact absurd (Option.some.inj heq.2.2.2.2.2.1).symm (append_bar_ne left right)
  · intro hbar
    obtain ⟨left, right, htext⟩ := exists_split_of_bar hbar
    have heq := hlookalike { row with
        paramsJson := some (row.paramsJson.getD "" ++ "|" ++ left), result := right }
      hversion rfl rfl (fun prev => by
        simp [RawAuditRow.message, v2Message, htext, String.append_assoc])
    simp only [RawAuditRow.stored, htext, Prod.mk.injEq] at heq
    have hlength := congrArg (fun text => text.toList.length) heq.2.2.2.2.2.2
    simp at hlength
    omega

end Fields

section Logs

variable {mac : Mac} {ring : KeyRing} {rows rows' : List RawAuditRow}

/-- Two logs with the same tags and labels that both verify store the same
fields wherever the first one has a single reading. -/
theorem stored_eq_of_sameTags (hideal : mac.Ideal) {prev : String} (hprev : IsHexText prev)
    (hrows : Chained RawAuditRow.chainHmac (RowVerifies mac ring) prev rows)
    (hrows' : Chained RawAuditRow.chainHmac (RowVerifies mac ring) prev rows')
    (htags : SameTags rows rows')
    (hwritten : ∀ row ∈ rows, row.chainVersion = chainV2 ∧ '|' ∉ row.ts.toList)
    (hunambiguous : ∀ row ∈ rows, row.Unambiguous) :
    rows'.map RawAuditRow.stored = rows.map RawAuditRow.stored := by
  induction rows generalizing prev rows' with
  | nil =>
    obtain rfl : rows' = [] := by simpa [SameTags] using htags
    rfl
  | cons row rest ih =>
    cases rows' with
    | nil => simp [SameTags] at htags
    | cons other rest' =>
      simp only [SameTags, map_cons, List.cons.injEq, Prod.mk.injEq] at htags
      obtain ⟨⟨hchainHmac, hkeyId⟩, hresttags⟩ := htags
      obtain ⟨⟨key, hkey, hexpected⟩, hrest⟩ := hrows
      obtain ⟨⟨key', hkey', hexpected'⟩, hrest'⟩ := hrows'
      obtain rfl : key' = key := by
        rw [hkeyId, hkey] at hkey'
        exact (Option.some.inj hkey').symm
      have hhead := forall_mem_cons.mp hwritten
      have hclear := forall_mem_cons.mp hunambiguous
      have hstored := stored_eq_of_expectedHmac_eq hideal hprev hhead.1.1 hhead.1.2 hclear.1
        (hexpected'.trans (hchainHmac.trans hexpected.symm))
      have hnext : IsHexText row.chainHmac := RowVerifies.tag_isHexText ⟨key', hkey, hexpected⟩
      rw [hchainHmac] at hrest'
      simp only [map_cons, hstored, ih hnext hrest hrest' hresttags hhead.2 hclear.2]

/-- A log stores something else under the same tags without failing
verification, unless every row has a single reading. -/
theorem exists_tampered (hrows : Verifies mac ring rows)
    (hversion : ∀ row ∈ rows, row.chainVersion = chainV2)
    {row : RawAuditRow} (hrow : row ∈ rows) (hreading : ¬row.Unambiguous) :
    ∃ rows', SameTags rows rows' ∧ Verifies mac ring rows' ∧
      rows'.map RawAuditRow.stored ≠ rows.map RawAuditRow.stored := by
  obtain ⟨other, hother⟩ := exists_lookalike (hversion row hrow) hreading
  obtain ⟨front, back, rfl⟩ := append_of_mem hrow
  refine ⟨front ++ other :: back, ?_, ?_, ?_⟩
  · simp [SameTags, hother.chainHmac, hother.keyId]
  · apply Chained.replace hrows hother.chainHmac
    rintro before ⟨key, hkey, hexpected⟩
    refine ⟨key, by rw [hother.keyId, hkey], ?_⟩
    rw [hother.expected, hexpected, hother.chainHmac]
  · simp [hother.stored]

/-- Under an ideal tag function, an honestly written log can be rewritten under
its own tags unless every row has present, non-empty, bar-free optional fields
and bar-free texts. -/
theorem tampered_fields_detected_iff (hideal : mac.Ideal) {key : Key}
    {events : List LogEvent} {state : LogState}
    (hrun : runFrom (LogState.step mac) (LogState.empty key) events = some state) :
    (∀ rows', SameTags state.rows rows' → (verify mac state.ring rows').2 = 0 →
        rows'.map RawAuditRow.stored = state.rows.map RawAuditRow.stored) ↔
      ∀ row ∈ state.rows, row.Unambiguous := by
  have hhonest := LogState.run_honest hrun
  constructor
  · intro hdetected row hrow
    by_contra hreading
    obtain ⟨rows', htags, hverifies, hstored⟩ := exists_tampered
      hhonest.verifies (fun row hrow => (hhonest.written row hrow).1) hrow
      hreading
    exact hstored (hdetected rows' htags (verify_fail_eq_zero_iff.mpr hverifies))
  · intro hunambiguous rows' htags hverify
    exact stored_eq_of_sameTags hideal isHexText_empty hhonest.verifies
      (verify_fail_eq_zero_iff.mp hverify) htags hhonest.written hunambiguous

namespace TamperWitness

def firstKey : Key := List.replicate 32 7

def secondKey : Key := List.replicate 32 8

def cleanEntry : LogEntry :=
  { action := "stop", user := "root@pam", vmid := some 100, node := some "pve1"
    paramsJson := some "\x7b\x7d", result := "ok" }

/-- The description of a guest may contain a bar, and so may the parameters
recorded for setting it. -/
def barEntry : LogEntry :=
  { cleanEntry with
    action := "config", paramsJson := some "\x7b\"description\":\"web|db\"\x7d" }

theorem tampered_fields_detected_clean :
    ∃ state, runFrom (LogState.step transcriptMac) (LogState.empty firstKey)
        [.append 0 cleanEntry, .rotate 1 secondKey, .append 2 cleanEntry] = some state ∧
      state.rows.length = 2 ∧
      ∀ rows', SameTags state.rows rows' → (verify transcriptMac state.ring rows').2 = 0 →
        rows'.map RawAuditRow.stored = state.rows.map RawAuditRow.stored :=
  ⟨_, rfl, rfl, (@tampered_fields_detected_iff _ transcriptMac_ideal firstKey
    [.append 0 cleanEntry, .rotate 1 secondKey, .append 2 cleanEntry] _
    rfl).mpr (by decide +kernel)⟩

/-- The parameters lose everything behind the bar to the result, and the log
still verifies. -/
theorem tampered_fields_undetected : transcriptMac.Ideal ∧
    ∃ state, runFrom (LogState.step transcriptMac) (LogState.empty firstKey)
        [.append 0 barEntry] = some state ∧
      ∃ rows', SameTags state.rows rows' ∧ (verify transcriptMac state.ring rows').2 = 0 ∧
        rows'.map RawAuditRow.stored ≠ state.rows.map RawAuditRow.stored := by
  refine ⟨transcriptMac_ideal, _, rfl, (log transcriptMac firstKey 0 barEntry []).map fun row =>
    { row with
      paramsJson := some "\x7b\"description\":\"web"
      result := "db\"\x7d|ok" }, ?_, ?_, ?_⟩
  · rfl
  · refine verify_fail_eq_zero_iff.mpr ⟨⟨firstKey, rfl, ?_⟩, trivial⟩
    exact congrArg (fun message => HexText.encode
      (transcriptMac.tag firstKey message)) (by decide +kernel)
  · intro hstored
    have hresults := congrArg (List.map fun stored => stored.2.2.2.2.2.2) hstored
    exact absurd hresults (by decide +kernel)

end TamperWitness

end Logs

section Order

variable {mac : Mac} {key : Key} {rows : List RawAuditRow}

/-- The log that the entries, each with the clock reading of its call, leave
when they are appended under one key. -/
def writeLog (mac : Mac) (key : Key) (entries : List (Nat × LogEntry)) : List RawAuditRow :=
  entries.foldl (fun rows entry => log mac key entry.1 entry.2 rows) []

/-- A row as `log` writes it, behind some predecessor. -/
def Logged (mac : Mac) (key : Key) (row : RawAuditRow) : Prop :=
  ∃ secs entry prev, row = logRow mac key secs entry prev

/-- The row is in the current format and links to the tag before it. -/
def LinkedV2 (mac : Mac) (key : Key) (prev : String) (row : RawAuditRow) : Prop :=
  IsHexText prev ∧ row.chainVersion = chainV2 ∧ expectedHmac mac row prev key = row.chainHmac

theorem writeLog_concat (entries : List (Nat × LogEntry)) (secs : Nat) (entry : LogEntry) :
    writeLog mac key (entries ++ [(secs, entry)]) =
      log mac key secs entry (writeLog mac key entries) := by simp [writeLog]

variable {entries : List (Nat × LogEntry)}

theorem logged_of_mem_writeLog : ∀ row ∈ writeLog mac key entries, Logged mac key row := by
  induction entries using List.reverseRecOn with
  | nil => simp [writeLog]
  | append_singleton entries entry ih =>
    intro row hrow
    rw [writeLog_concat, log] at hrow
    rcases mem_append.mp hrow with hold | hnew
    · exact ih row hold
    · exact ⟨_, _, _, mem_singleton.mp hnew⟩

variable {row : RawAuditRow}

theorem Logged.isHexText (hrow : Logged mac key row) : IsHexText row.chainHmac := by
  obtain ⟨secs, entry, prev, rfl⟩ := hrow
  exact fun c hc => HexText.mem_encode hc

theorem Logged.chainVersion (hrow : Logged mac key row) : row.chainVersion = chainV2 := by
  obtain ⟨secs, entry, prev, rfl⟩ := hrow
  rfl

theorem Logged.keyId (hrow : Logged mac key row) : row.keyId = primaryKeyId := by
  obtain ⟨secs, entry, prev, rfl⟩ := hrow
  rfl

theorem isHexText_lastChainHmac (hrows : ∀ row ∈ rows, IsHexText row.chainHmac) :
    IsHexText (lastChainHmac rows) := by
  cases hlast : rows.getLast? with
  | none => simp [lastChainHmac, lastTag, hlast, isHexText_empty]
  | some row =>
    have hrow := hrows row (List.mem_of_getLast? hlast)
    simpa [lastChainHmac, lastTag, hlast] using hrow

theorem chained_writeLog (entries : List (Nat × LogEntry)) :
    Chained RawAuditRow.chainHmac (LinkedV2 mac key) "" (writeLog mac key entries) := by
  induction entries using List.reverseRecOn with
  | nil => trivial
  | append_singleton entries entry ih =>
    rw [writeLog_concat, log, chained_concat]
    refine ⟨ih, ?_, rfl, expectedHmac_logRow key entry.1 entry.2 _⟩
    exact isHexText_lastChainHmac fun row hrow => (logged_of_mem_writeLog row hrow).isHexText

/-- An ideal tag determines the tag it was computed behind. -/
theorem tagsBind_linkedV2 (hideal : mac.Ideal) :
    TagsBind RawAuditRow.chainHmac (LinkedV2 mac key) := by
  rintro prev prev' row row' ⟨hprev, hversion, hrow⟩ ⟨hprev', hversion', hrow'⟩ htag
  rw [← hrow, ← hrow', expectedHmac_v2 hversion, expectedHmac_v2 hversion'] at htag
  have hmessage := hideal key _ _ (HexText.encode_injective htag)
  have hlist := congrArg String.toList hmessage
  simp only [RawAuditRow.message, toList_v2Message, map_cons,
    intercalate_cons_cons, append_assoc, cons_append,
    nil_append] at hlist
  have hbehind := append_cancel_left hlist
  exact String.toList_inj.mp (SeparatedFields.first_field_inj hprev.bar_notMem
    hprev'.bar_notMem (List.cons.inj hbehind).2)

variable {retired : String → Option Key}

/-- A copy of a log row that verifies was not moved to another format. -/
theorem copy_eq_of_rowVerifies (hideal : mac.Ideal) {prev : String} {source : RawAuditRow}
    (hprev : IsHexText prev) (hsource : Logged mac key source) {version : Int}
    (hverifies : RowVerifies mac ⟨key, retired⟩ prev { source with chainVersion := version }) :
    version = chainV2 ∧ LinkedV2 mac key prev source := by
  obtain ⟨key', hkey, hexpected⟩ := hverifies
  obtain rfl : key = key' := by simpa [KeyRing.keyFor, hsource.keyId] using hkey
  have hversion : version = chainV2 := by
    by_contra hother
    obtain ⟨secs, entry, before, rfl⟩ := hsource
    rw [expectedHmac_v1 hother] at hexpected
    exact v1Message_ne_v2Message hprev _ _ _ _ _ _ _ _ _ _ _ _
      (hideal key _ _ (HexText.encode_injective hexpected))
  subst hversion
  have hcopy : { source with chainVersion := chainV2 } = source := by rw [← hsource.chainVersion]
  rw [hcopy] at hexpected
  exact ⟨rfl, hprev, hsource.chainVersion, hexpected⟩

variable {candidate : List RawAuditRow}

theorem linked_of_verifies (hideal : mac.Ideal) (hrows : ∀ row ∈ rows, Logged mac key row)
    (hbuilt : ∀ row ∈ candidate, ∃ source ∈ rows, ∃ version,
      row = { source with chainVersion := version })
    {prev : String} (hprev : IsHexText prev)
    (hverifies : Chained RawAuditRow.chainHmac (RowVerifies mac ⟨key, retired⟩) prev candidate) :
    (∀ row ∈ candidate, row ∈ rows) ∧
      Chained RawAuditRow.chainHmac (LinkedV2 mac key) prev candidate := by
  induction candidate generalizing prev with
  | nil => exact ⟨by simp, trivial⟩
  | cons row rest ih =>
    obtain ⟨⟨source, hsource, version, rfl⟩, hrest⟩ := forall_mem_cons.mp hbuilt
    have hlogged := hrows source hsource
    obtain ⟨rfl, hlinked⟩ := copy_eq_of_rowVerifies hideal hprev hlogged hverifies.1
    have hcopy : { source with chainVersion := chainV2 } = source := by rw [← hlogged.chainVersion]
    obtain ⟨hmem, hchain⟩ := ih hrest hlogged.isHexText hverifies.2
    rw [hcopy]
    exact ⟨forall_mem_cons.mpr ⟨hsource, hmem⟩, hlinked, hchain⟩

theorem verify_prefix_writeLog (retired : String → Option Key)
    (hfront : candidate <+: writeLog mac key entries) :
    (verify mac ⟨key, retired⟩ candidate).2 = 0 := by
  apply verify_fail_eq_zero_iff.mpr
  apply ((chained_writeLog entries).of_isPrefix hfront).imp
  rintro row hrow prev ⟨-, -, hexpected⟩
  have hlogged := logged_of_mem_writeLog row (hfront.subset hrow)
  exact ⟨key, by simp [KeyRing.keyFor, hlogged.keyId], hexpected⟩

theorem prefix_writeLog_of_verify (hideal : mac.Ideal)
    (hbuilt : ∀ row ∈ candidate, ∃ source ∈ writeLog mac key entries,
      ∃ version, row = { source with chainVersion := version })
    (hverify : (verify mac ⟨key, retired⟩ candidate).2 = 0) :
    candidate <+: writeLog mac key entries := by
  have hlogged : ∀ row ∈ writeLog mac key entries, Logged mac key row := logged_of_mem_writeLog
  obtain ⟨hmem, hchain⟩ := linked_of_verifies hideal hlogged hbuilt
    isHexText_empty (verify_fail_eq_zero_iff.mp hverify)
  refine (chained_writeLog entries).prefix_of_mem (tagsBind_linkedV2 hideal) ?_ hmem hchain
  intro row hrow
  have hfull : Verifies mac ⟨key, retired⟩ (writeLog mac key entries) :=
    verify_fail_eq_zero_iff.mp (verify_prefix_writeLog retired prefix_rfl)
  exact hfull.forall_mem (fun _ _ hrow => hrow.tag_ne_empty) row hrow

/-- Of all the row sequences that can be put together from the rows of a log
written under one key, in whatever format they are labelled, `verify` passes
the prefixes of the log and no others; so it fails a log in which one row was
moved to another format. -/
theorem rearranged_log_fails (hideal : mac.Ideal)
    (entries : List (Nat × LogEntry)) (retired : String → Option Key) :
    (∀ candidate : List RawAuditRow, (∀ row ∈ candidate, ∃ source ∈ writeLog mac key entries,
        ∃ version, row = { source with chainVersion := version }) →
      (0 < (verify mac ⟨key, retired⟩ candidate).2 ↔ ¬candidate <+: writeLog mac key entries)) ∧
    ∀ (front : List RawAuditRow) (row : RawAuditRow) (back : List RawAuditRow) (version : Int),
      writeLog mac key entries = front ++ row :: back → version ≠ chainV2 →
      0 < (verify mac ⟨key, retired⟩
        (front ++ { row with chainVersion := version } :: back)).2 := by
  refine (and_iff_left_of_imp fun hiff => ?_).mpr fun candidate hbuilt => ?_
  · intro front row back version hlog hversion
    have hrow : row ∈ writeLog mac key entries := by simp [hlog]
    refine (hiff _ fun other hother => ?_).mpr fun hfront => ?_
    · rcases mem_append.mp hother with hother | hother
      · exact ⟨other, by simp [hlog, hother], other.chainVersion, rfl⟩
      · rcases mem_cons.mp hother with rfl | hother
        · exact ⟨row, hrow, version, rfl⟩
        · exact ⟨other, by simp [hlog, hother], other.chainVersion, rfl⟩
    · -- A prefix of the same length is the log itself, whose rows are all current.
      have hsame := hfront.eq_of_length (by simp [hlog])
      rw [hlog] at hsame
      have hversions := congrArg RawAuditRow.chainVersion
        (List.cons.inj (append_cancel_left hsame)).1
      exact hversion (hversions.trans (logged_of_mem_writeLog row hrow).chainVersion)
  · rw [Nat.pos_iff_ne_zero, not_iff_not]
    exact ⟨prefix_writeLog_of_verify hideal hbuilt, verify_prefix_writeLog retired⟩

/-- Deleting the first of two rows is noticed. -/
theorem rearranged_log_fails_deleted :
    0 < (verify transcriptMac ⟨TamperWitness.firstKey, fun _ => none⟩
      ((writeLog transcriptMac TamperWitness.firstKey
        [(0, TamperWitness.cleanEntry), (1, TamperWitness.cleanEntry)]).drop 1)).2 := by
  refine ((rearranged_log_fails transcriptMac_ideal
    [(0, TamperWitness.cleanEntry), (1, TamperWitness.cleanEntry)] _).1 _
    ?_).mpr (by decide +kernel)
  intro row hrow
  exact ⟨row, mem_of_mem_drop hrow, row.chainVersion, rfl⟩

end Order

end Proxxx
