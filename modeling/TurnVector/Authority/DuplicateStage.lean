import TurnVector.Authority.Duplicates
import TurnVector.Authority.PhaseA
import TurnVector.Authority.StagedLanguage

/-! # The stages before values

Stages 1 to 3 of `_parse_phase_a` in `authority/compiler.py`: the documents are read, their outer shapes are checked,
and then every repeated key is reported.
-/

namespace TurnVector.PhaseA

open Python Json ContractJson

/-! ## Stage 1: documents -/

/-- The five buffers, in `BUFFER_ORDER`. -/
structure Buffers where
  authoritySnapshot : Bytes
  sourceReconciliation : Bytes
  benchmarkExpectation : Bytes
  obligationCatalog : Bytes
  traceabilityLedger : Bytes

deriving instance DecidableEq for ParsedJson

/-- What stage 1 reads from them. -/
structure Documents where
  snapshot : ParsedJson
  reconciliation : ParsedJson
  expectation : ParsedJson
  header : ParsedJson
  records : List ParsedJson
  ledger : ParsedJson
  deriving DecidableEq

/-- A document that is read, or the failure of stage 1. The parsers raise `InvalidCanonicalJson` only. -/
def readDocument {α : Type} (accounting : Accounting) (name : String) (parsed : Except Exc α) : Except StageFailure α :=
  match parsed with
  | .ok document => .ok document
  | .error _ => .error ⟨.authorityInvalidCanonicalJson, [cp 47 :: lit name], accounting⟩

/-- Stage 1. The accounting is the one that `replace` builds for a failure. -/
def readDocuments (buffers : Buffers) (accounting : Accounting) : Except StageFailure Documents := do
  let read := fun name raw => readDocument accounting name (parseJsonObject raw (lit name))
  let snapshot ← read "authority_snapshot" buffers.authoritySnapshot
  let reconciliation ← read "source_reconciliation" buffers.sourceReconciliation
  let expectation ← read "benchmark_expectation" buffers.benchmarkExpectation
  let catalog ← readDocument accounting "obligation_catalog"
    (parseJsonlRecords buffers.obligationCatalog (lit "obligation_catalog"))
  let ledger ← read "traceability_ledger" buffers.traceabilityLedger
  match catalog with
  | [] => throw ⟨.authorityInvalidCanonicalJson, [lit "/obligation_catalog"], accounting⟩
  | header :: records => return ⟨snapshot, reconciliation, expectation, header, records, ledger⟩

/-! ## Stage 2: outer shapes -/

/-- `_top_level_shape` -/
def topLevelShape (parsed : Json) (required : List String) (base : String) : Option Str :=
  match parsed with
  | .obj pairs =>
    match (pairs.map Prod.fst).find? fun key => !occurs key (required.map lit) with
    | some key => some (pointerOf base [key])
    | none =>
      if required.all fun key => occurs (lit key) (pairs.map Prod.fst) then none else some (cp 47 :: lit base)
  | _ => some (cp 47 :: lit base)

/-- The values whose shapes are checked, with their fields. -/
def shapes (documents : Documents) : List (Json × List String × String) :=
  [(documents.snapshot.value,
      ["schema_version", "repository", "revision", "observed_head", "revision_relation", "ancestry_verified",
       "clean_required", "clean", "source_files", "section_records", "historical_objects", "repository_control"],
      "authority_snapshot"),
   (documents.reconciliation.value,
      ["schema_version", "id", "design_gate_revision", "predecessor_expectation", "successor_expectation",
       "target_source", "mappings"],
      "source_reconciliation"),
   (documents.expectation.value,
      ["schema_version", "id", "description", "source_contract", "authority", "certification_policy", "lanes"],
      "benchmark_expectation"),
   (documents.ledger.value,
      ["schema_version", "id", "profile_id", "design_gate_revision", "predecessor", "cardinalities", "binds",
       "entities"],
      "traceability_ledger")]

/-- Stage 2. -/
def checkShapes (documents : Documents) (accounting : Accounting) : Except StageFailure Unit :=
  match (shapes documents).findSome? fun (value, required, name) => topLevelShape value required name with
  | some issue => .error ⟨.authorityUnknownField, [issue], accounting⟩
  | none =>
    if isMapping documents.header.value && documents.records.all fun record => isMapping record.value then .ok ()
    else .error ⟨.authorityUnknownField, [lit "/obligation_catalog"], accounting⟩

/-! ## Stage 3: repeated keys -/

/-- `str(item)` of a token of a path. -/
def tokenText : PathToken → Str
  | .key key => key
  | .index index => natText index

/-- A document of the sweep: the name of its buffer, and its ordinal when it is a record of the catalog. -/
structure SweptDocument where
  name : String
  ordinal : Option Nat
  parsed : ParsedJson

/-- `duplicate_sets`, one document after the other. -/
def duplicateSets (documents : Documents) : List SweptDocument :=
  [⟨"authority_snapshot", none, documents.snapshot⟩, ⟨"source_reconciliation", none, documents.reconciliation⟩,
   ⟨"benchmark_expectation", none, documents.expectation⟩] ++
    (documents.header :: documents.records).zipIdx.map
      (fun record => ⟨"obligation_catalog", some record.2, record.1⟩) ++
    [⟨"traceability_ledger", none, documents.ledger⟩]

/-- `_pointer(name, path, duplicate.key)` -/
def SweptDocument.pointer (document : SweptDocument) (duplicate : DuplicateKey) : Str :=
  pointerOf document.name (document.ordinal.toList.map natText ++ duplicate.path.map tokenText ++ [duplicate.key])

/-- Stage 3. -/
def checkDuplicates (documents : Documents) (accounting : Accounting) : Except StageFailure Unit :=
  let pointers := (duplicateSets documents).flatMap fun document =>
    document.parsed.duplicateKeys.map document.pointer
  if pointers.isEmpty then .ok () else .error ⟨.authorityDuplicateKey, pointers, accounting⟩

/-- `_parse_phase_a` up to the end of stage 3. -/
def parseDocuments (buffers : Buffers) (accounting : Accounting) : Except StageFailure Documents := do
  let documents ← readDocuments buffers accounting
  checkShapes documents accounting
  checkDuplicates documents accounting
  return documents

/-! ## What is reported -/

theorem parseJsonObject_facts (raw : Bytes) (what : Str) (parsed : ParsedJson)
    (h : parseJsonObject raw what = .ok parsed) : parsed.duplicateKeys = duplicatesOf (.obj parsed.root) := by
  rw [duplicatesOf_eq]
  exact ((parse_ok_iff raw what parsed).mp h).2

theorem parseLines_facts (what : Str) (index : Nat) (lines : List Bytes) (records : List ParsedJson)
    (h : ContractJson.parseLines what index lines = .ok records) :
    ∀ record ∈ records, record.duplicateKeys = duplicatesOf (.obj record.root) := by
  induction lines generalizing index records with
  | nil =>
    cases h
    simp
  | cons line lines ih =>
    simp only [ContractJson.parseLines, bind_ok_iff, Except.ok.injEq, pure, Except.pure] at h
    obtain ⟨parsed, hparsed, rest, hrest, rfl⟩ := h
    simp only [List.mem_cons, forall_eq_or_imp]
    exact ⟨parseJsonObject_facts line _ parsed hparsed, ih (index + 1) rest hrest⟩

theorem readDocument_ok {α : Type} (accounting : Accounting) (name : String) (parsed : Except Exc α) (document : α)
    (h : readDocument accounting name parsed = .ok document) : parsed = .ok document := by
  unfold readDocument at h
  split at h
  · cases h
    rfl
  · cases h

/-- Every document that is read comes with the facts about its own keys. -/
theorem readDocuments_facts (buffers : Buffers) (accounting : Accounting) (documents : Documents)
    (h : readDocuments buffers accounting = .ok documents) :
    ∀ document ∈ duplicateSets documents,
      document.parsed.duplicateKeys = duplicatesOf (.obj document.parsed.root) := by
  unfold readDocuments at h
  simp only [bind_ok_iff] at h
  obtain ⟨snapshot, hsnapshot, reconciliation, hreconciliation, expectation, hexpectation, catalog, hcatalog, ledger,
    hledger, h⟩ := h
  have hrecords : ∀ record ∈ catalog, record.duplicateKeys = duplicatesOf (.obj record.root) := by
    have hread := readDocument_ok _ _ _ _ hcatalog
    unfold parseJsonlRecords at hread
    split at hread
    · cases hread
    · split at hread
      · cases hread
      · exact parseLines_facts _ 0 _ _ hread
  cases catalog with
  | nil => cases h
  | cons header records =>
    cases h
    intro document hdocument
    simp only [duplicateSets, List.mem_append, List.mem_cons, List.not_mem_nil, or_false, List.mem_map] at hdocument
    rcases hdocument with ((rfl | rfl | rfl) | ⟨⟨record, ordinal⟩, hrecord, rfl⟩) | rfl
    · exact parseJsonObject_facts _ _ _ (readDocument_ok _ _ _ _ hsnapshot)
    · exact parseJsonObject_facts _ _ _ (readDocument_ok _ _ _ _ hreconciliation)
    · exact parseJsonObject_facts _ _ _ (readDocument_ok _ _ _ _ hexpectation)
    · exact hrecords record (List.fst_mem_of_mem_zipIdx hrecord)
    · exact parseJsonObject_facts _ _ _ (readDocument_ok _ _ _ _ hledger)

/-- Some key of some document is repeated. -/
def HasDuplicates (documents : Documents) : Prop :=
  ∃ document ∈ duplicateSets documents, ∃ address fact, Repeated [] (.obj document.parsed.root) address fact

theorem duplicatesOf_located (value : Json) : Located (duplicatesOf value) (Repeated [] value) := by
  rw [duplicatesOf_eq]
  exact collectDuplicates_located value []

theorem duplicatesOf_ne_nil (value : Json) (address : List Nat) (fact : DuplicateKey)
    (h : Repeated [] value address fact) : duplicatesOf value ≠ [] := by
  obtain ⟨found, hfacts, -, hfound⟩ := duplicatesOf_located value
  intro hnil
  have hmem := List.mem_map_of_mem (f := Prod.snd) ((hfound address fact).mpr h)
  rw [hfacts, hnil] at hmem
  cases hmem

/-- Repeated keys of documents that are read and well shaped are all reported, and nothing else is. -/
theorem parseDocuments_duplicates (buffers : Buffers) (accounting : Accounting) (documents : Documents)
    (hread : readDocuments buffers accounting = .ok documents) (hshapes : checkShapes documents accounting = .ok ())
    (hduplicates : HasDuplicates documents) :
    parseDocuments buffers accounting = .error ⟨.authorityDuplicateKey,
      (duplicateSets documents).flatMap fun document =>
        (duplicatesOf (.obj document.parsed.root)).map document.pointer, accounting⟩ := by
  have hfacts := readDocuments_facts buffers accounting documents hread
  have hpointers : ((duplicateSets documents).flatMap fun document =>
        document.parsed.duplicateKeys.map document.pointer) =
      (duplicateSets documents).flatMap fun document =>
        (duplicatesOf (.obj document.parsed.root)).map document.pointer := by
    apply List.flatMap_congr
    intro document hdocument
    rw [hfacts document hdocument]
  obtain ⟨document, hdocument, address, fact, hrepeated⟩ := hduplicates
  have hne : ((duplicateSets documents).flatMap fun document =>
      (duplicatesOf (.obj document.parsed.root)).map document.pointer).isEmpty = false := by
    rw [List.isEmpty_eq_false_iff, ne_eq, List.flatMap_eq_nil_iff]
    intro hnil
    have := List.map_eq_nil_iff.mp (hnil document hdocument)
    exact duplicatesOf_ne_nil _ address fact hrepeated this
  unfold parseDocuments checkDuplicates
  simp only [hread, hshapes, hpointers, hne, bind, Except.bind, Bool.false_eq_true, if_false]

/-- Every repeated key of a value is found and located, and stage 3 reports every one of them, in document order. -/
theorem duplicates_reported :
    (∀ value, Located (duplicatesOf value) (Repeated [] value)) ∧
    ∀ (buffers : Buffers) (accounting : Accounting) (documents : Documents),
      readDocuments buffers accounting = .ok documents → checkShapes documents accounting = .ok () →
      HasDuplicates documents →
      parseDocuments buffers accounting = .error ⟨.authorityDuplicateKey,
        (duplicateSets documents).flatMap fun document =>
          (duplicatesOf (.obj document.parsed.root)).map document.pointer, accounting⟩ :=
  ⟨duplicatesOf_located, parseDocuments_duplicates⟩

/-! ## Samples -/

/-- The text of an object with a number for each of its fields, after some text. -/
def sampleText (start : String) (fields : List String) : Bytes :=
  ((lit start ++ join (lit ",") (fields.map fun field => lit "\"" ++ lit field ++ lit "\":1") ++ lit "\x7d\n").map
    fun c => byte c.val)

def sampleDocument (fields : List String) : ParsedJson := ⟨fields.map fun field => (lit field, .int 1), []⟩

def snapshotFields : List String :=
  ["schema_version", "revision", "observed_head", "revision_relation", "ancestry_verified", "clean_required", "clean",
   "source_files", "section_records", "historical_objects", "repository_control"]

def reconciliationFields : List String :=
  ["schema_version", "id", "design_gate_revision", "predecessor_expectation", "successor_expectation", "target_source",
   "mappings"]

def expectationFields : List String :=
  ["schema_version", "id", "description", "source_contract", "authority", "certification_policy", "lanes"]

def ledgerFields : List String :=
  ["schema_version", "id", "profile_id", "design_gate_revision", "predecessor", "cardinalities", "binds", "entities"]

/-- Well-shaped documents. The repository of the snapshot has a key twice. -/
def sampleBuffers : Buffers where
  authoritySnapshot := sampleText "\x7b\"repository\":\x7b\"x\":1,\"x\":1\x7d," snapshotFields
  sourceReconciliation := sampleText "\x7b" reconciliationFields
  benchmarkExpectation := sampleText "\x7b" expectationFields
  obligationCatalog := sampleText "\x7b" []
  traceabilityLedger := sampleText "\x7b" ledgerFields

def sampleDocuments : Documents where
  snapshot := ⟨(lit "repository", .obj [(lit "x", .int 1), (lit "x", .int 1)]) :: (sampleDocument snapshotFields).root,
    [⟨[.key (lit "repository")], lit "x", 1, 2⟩]⟩
  reconciliation := sampleDocument reconciliationFields
  expectation := sampleDocument expectationFields
  header := sampleDocument []
  records := []
  ledger := sampleDocument ledgerFields

theorem sampleDocuments_read :
    readDocuments sampleBuffers {} = .ok sampleDocuments ∧ checkShapes sampleDocuments {} = .ok () := by
  decide +kernel

theorem sampleDocuments_duplicates : HasDuplicates sampleDocuments :=
  ⟨_, List.mem_cons_self, [0, 1], _, .pair [] _ 0 _ _ [1] _ rfl (.here _ _ 1 (lit "x") (.int 1) rfl (by decide))⟩

theorem duplicates_reported_sample :
    ∃ pointers, parseDocuments sampleBuffers {} = .error ⟨.authorityDuplicateKey, pointers, {}⟩ ∧
      Located (duplicatesOf (.obj sampleDocuments.snapshot.root)) (Repeated [] (.obj sampleDocuments.snapshot.root)) :=
  ⟨_, duplicates_reported.2 sampleBuffers {} sampleDocuments sampleDocuments_read.1 sampleDocuments_read.2
    sampleDocuments_duplicates, duplicates_reported.1 _⟩

/-- A snapshot whose one field is unknown and stands there twice. -/
def unknownBuffers : Buffers where
  authoritySnapshot := sampleText "\x7b" ["x", "x"]
  sourceReconciliation := sampleText "\x7b" []
  benchmarkExpectation := sampleText "\x7b" []
  obligationCatalog := sampleText "\x7b" []
  traceabilityLedger := sampleText "\x7b" []

def unknownDocuments : Documents where
  snapshot := ⟨(sampleDocument ["x", "x"]).root, [⟨[], lit "x", 1, 2⟩]⟩
  reconciliation := sampleDocument []
  expectation := sampleDocument []
  header := sampleDocument []
  records := []
  ledger := sampleDocument []

/-- A repeated key in a document of the wrong shape is not reported. -/
theorem duplicates_unreported :
    readDocuments unknownBuffers {} = .ok unknownDocuments ∧ HasDuplicates unknownDocuments ∧
      parseDocuments unknownBuffers {} = .error ⟨.authorityUnknownField, [lit "/authority_snapshot/x"], {}⟩ :=
  ⟨by decide +kernel, ⟨_, List.mem_cons_self, [1], _, .here [] _ 1 (lit "x") (.int 1) rfl (by decide)⟩,
    by decide +kernel⟩

end TurnVector.PhaseA
