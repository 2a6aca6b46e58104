import Tenancy.Postgres.Call
import Tenancy.Proofs.Tokens

/-!
# Names between quotes

A delimited identifier is read back as the name that it was made of, whatever characters the name
has and whatever follows, as long as that is no further quote. So a statement with a name in it
comes apart into the same tokens for every name: no name can end its identifier early, and none can
take in what stands behind it.

The reader of tokens reads what is between the quotes as the reader of one identifier does. All that
has to be known of the rest of a statement is that it can be read up to the name, and that it can be
read from behind the name on.

## Key results

- `readQuoted?_quoteIdent`: reading a delimited identifier
- `Encloses.exists_tokens`: the tokens of a text with a delimited identifier in it
- `exists_query`: the statement of each call to the registry is such a text
- `names_stay_quoted`: no name escapes from its quotes, in whichever statement it stands
-/

namespace Tenancy

namespace Sql

/-! ## One identifier -/

theorem toList_quoteIdent (name : String) :
    (quoteIdent name).toList = '"' :: (doubleQuotes name.toList ++ ['"']) := by
  rw [quoteIdent, String.toList_ofList, List.cons_append]

/-- Inside of an identifier a character that is no quote stands for itself. -/
theorem readInside?_cons_of_ne {c : Char} (hc : c ≠ '"') (cs : List Char) :
    readInside? (c :: cs) = (readInside? cs).map fun r => (c :: r.1, r.2) := by
  rw [readInside?.eq_def]
  split <;> simp_all

/-- A quote that no other follows ends an identifier. -/
theorem readInside?_quote {rest : List Char} (hrest : rest.head? ≠ some '"') :
    readInside? ('"' :: rest) = some ([], rest) := by
  cases rest with
  | nil => rfl
  | cons c rest =>
    have hc : c ≠ '"' := fun hquote => hrest (congrArg some hquote)
    exact readInside?.eq_3 (c :: rest) fun tail h => hc (List.cons.inj h).1

/-- What was written between the quotes is read back, and reading stops at the closing quote. -/
theorem readInside?_doubleQuotes (cs : List Char) {rest : List Char}
    (hrest : rest.head? ≠ some '"') :
    readInside? (doubleQuotes cs ++ '"' :: rest) = some (cs, rest) := by
  induction cs with
  | nil => exact readInside?_quote hrest
  | cons c cs ih =>
    by_cases hc : c = '"'
    · -- a quote is written twice, and the reader takes the two for one
      subst hc
      show (readInside? (doubleQuotes cs ++ '"' :: rest)).map _ = _
      rw [ih]
      rfl
    · have hkept : doubleQuotes (c :: cs) = c :: doubleQuotes cs := by simp [doubleQuotes, hc]
      rw [hkept, List.cons_append, readInside?_cons_of_ne hc, ih]
      rfl

/-- A delimited identifier is read back as its name, and what follows is left. -/
theorem readQuoted?_quoteIdent (name : String) (rest : List Char) (hrest : rest.head? ≠ some '"') :
    readQuoted? ((quoteIdent name).toList ++ rest) = some (name.toList, rest) := by
  rw [toList_quoteIdent, List.cons_append, List.append_assoc]
  exact readInside?_doubleQuotes name.toList hrest

/-- The identifier that a statement ends with is read to its end. -/
theorem readQuoted?_quoteIdent_end (name : String) :
    readQuoted? (quoteIdent name).toList = some (name.toList, []) := by
  rw [← readQuoted?_quoteIdent name [] (by simp), List.append_nil]

theorem quoteIdent_injective {name name' : String} (h : quoteIdent name = quoteIdent name') :
    name = name' := by
  -- one text is read back as both names
  have hread := readQuoted?_quoteIdent_end name
  rw [h, readQuoted?_quoteIdent_end] at hread
  exact String.toList_inj.mp (by simpa using hread.symm)

/-- A qualified name is read back as two identifiers with a dot between them. -/
theorem readQuoted?_qualified (schema table : String) :
    readQuoted? (qualified schema table).toList =
      some (schema.toList, '.' :: (quoteIdent table).toList) := by
  have hdot : (qualified schema table).toList =
      (quoteIdent schema).toList ++ '.' :: (quoteIdent table).toList := by
    simp [qualified]
  rw [hdot]
  exact readQuoted?_quoteIdent schema _ (by simp)

theorem qualified_injective {schema table schema' table' : String}
    (h : qualified schema table = qualified schema' table') :
    schema = schema' ∧ table = table' := by
  have hread := readQuoted?_qualified schema table
  rw [h, readQuoted?_qualified] at hread
  simp only [Option.some.injEq, Prod.mk.injEq, List.cons.injEq, true_and,
    String.toList_inj] at hread
  exact ⟨hread.1.symm, quoteIdent_injective hread.2.symm⟩

theorem toList_searchPathStatement (schema : String) : (searchPathStatement schema).toList =
    "SET search_path TO ".toList ++ ((quoteIdent schema).toList ++ ", public".toList) := by
  show (_ ++ _ ++ _ : String).toList = _
  rw [String.toList_append, String.toList_append, List.append_assoc]

theorem searchPathStatement_injective {schema schema' : String}
    (h : searchPathStatement schema = searchPathStatement schema') : schema = schema' := by
  have hquoted := congrArg String.toList h
  rw [toList_searchPathStatement, toList_searchPathStatement] at hquoted
  exact quoteIdent_injective
    (String.toList_inj.mp (List.append_cancel_right (List.append_cancel_left hquoted)))

/-! ## Reading tokens -/

namespace Reader

variable {ts : List Token} {p : Place} {r : Reader} {c : Char} {cs cs' read : List Char}

theorem read_cons : r.read (c :: cs) = (r.step c).bind fun r' => r'.read cs := List.foldlM_cons

theorem read_append : r.read (cs ++ cs') = (r.read cs).bind fun r' => r'.read cs' :=
  List.foldlM_append

/-- The tokens that have ended do not matter for what comes after them. -/
theorem step_done : (Reader.mk ts p).step c =
    ((Reader.mk [] p).step c).map fun r => ⟨ts ++ r.done, r.place⟩ := by
  rw [step, step]
  cases p.goOn? c with
  | some q => simp
  | none => cases p.ended? <;> cases begin? c <;> simp

theorem read_done : (Reader.mk ts p).read cs =
    ((Reader.mk [] p).read cs).map fun r => ⟨ts ++ r.done, r.place⟩ := by
  induction cs generalizing ts p with
  | nil => exact congrArg some (by simp)
  | cons c cs ih =>
    rw [read_cons, read_cons, step_done]
    cases (Reader.mk [] p).step c with
    | none => rfl
    | some r =>
      have hdone : Reader.read ⟨r.done, r.place⟩ cs = _ := ih
      show Reader.read ⟨ts ++ r.done, r.place⟩ cs = (Reader.read ⟨r.done, r.place⟩ cs).map _
      rw [ih, hdone, Option.map_map]
      simp [Function.comp_def, List.append_assoc]

/-- The tokens of a text, where some have ended before it. -/
theorem finish?_read_between : ((Reader.mk ts .between).read cs).bind finish? =
    (((Reader.mk [] .between).read cs).bind finish?).map (ts ++ ·) := by
  rw [read_done, Option.bind_map, Option.map_bind]
  congr 1
  funext r
  simp [finish?, Function.comp_def, List.append_assoc]

/-- Behind a quote that no other follows the identifier has ended. -/
theorem finish?_read_behindQuote (hcs : cs.head? ≠ some '"') :
    ((Reader.mk ts (.behindQuote read)).read cs).bind finish? =
      ((Reader.mk (ts ++ ofRead .name read) .between).read cs).bind finish? := by
  cases cs with
  | nil => exact congrArg some (by simp)
  | cons c cs =>
    have hc : c ≠ '"' := fun hquote => hcs (congrArg some hquote)
    have hstep : (Reader.mk ts (.behindQuote read)).step c =
        (Reader.mk (ts ++ ofRead .name read) .between).step c := by
      simp [step, Place.goOn?, Place.ended?, hc]
    rw [read_cons, read_cons, hstep]

/-- Between quotes the reader of tokens reads what the reader of an identifier does. -/
theorem finish?_read_inName : ((Reader.mk ts (.inName read)).read cs).bind finish? =
    (readInside? cs).bind fun inside =>
      ((Reader.mk (ts ++ [.name (String.ofList (read.reverse ++ inside.1))]) .between).read
        inside.2).bind finish? := by
  fun_induction readInside? cs generalizing read with
  | case1 => rfl
  | case2 rest ih =>
    -- the first of two quotes leads behind a quote, the second one back
    show ((Reader.mk ts (.inName ('"' :: read))).read rest).bind finish? = _
    rw [ih, Option.bind_map]
    congr 1
    funext inside
    simp
  | case3 rest hrest =>
    have hhead : rest.head? ≠ some '"' := by
      cases rest with
      | nil => nofun
      | cons c rest =>
        intro hquote
        exact hrest rest (by simpa using hquote)
    show ((Reader.mk ts (.behindQuote read)).read rest).bind finish? = _
    rw [finish?_read_behindQuote hhead]
    simp [ofRead]
  | case4 c rest hpair hc ih =>
    have hstep : (Reader.mk ts (.inName read)).step c = some ⟨ts, .inName (c :: read)⟩ := by
      simp [step, Place.goOn?, show c ≠ '"' from hc]
    rw [read_cons, hstep, Option.bind_some, ih, Option.bind_map]
    congr 1
    funext inside
    simp

end Reader

/-! ## A name in a text -/

/-- A text is made of a name by putting it between quotes between two fixed texts. -/
def Encloses (text : String → List Char) (before after : List Char) : Prop :=
  ∀ name, text name = before ++ ((quoteIdent name).toList ++ after)

/-- Two texts can stand around an identifier: the first one does not end inside of a token, and the
    second one can be read and does not begin with a quote. -/
def canEnclose (before after : List Char) : Bool :=
  (({} : Reader).read before).map (·.place) == some .between &&
    ((({} : Reader).read after).bind Reader.finish?).isSome && after.head? != some '"'

namespace Encloses

variable {text : String → List Char} {before after : List Char}

theorem here (after : List Char) :
    Encloses (fun name => (quoteIdent name).toList ++ after) [] after :=
  fun _ => (List.nil_append _).symm

theorem there (h : Encloses text before after) (cs : List Char) :
    Encloses (fun name => cs ++ text name) (cs ++ before) after := fun name => by
  show cs ++ text name = _
  rw [h name, List.append_assoc]

/-- The tokens of the text: those before the name, the name, and those after it. -/
theorem exists_tokens (h : Encloses text before after) (hcan : canEnclose before after = true) :
    ∃ ts ts' : List Token, ∀ name,
      (({} : Reader).read (text name)).bind Reader.finish? = some (ts ++ .name name :: ts') := by
  simp only [canEnclose, Bool.and_eq_true, beq_iff_eq, bne_iff_ne] at hcan
  obtain ⟨⟨hbefore, hafter⟩, hhead⟩ := hcan
  obtain ⟨⟨ts, place⟩, hread, rfl⟩ := Option.map_eq_some_iff.mp hbefore
  obtain ⟨ts', hts'⟩ := Option.isSome_iff_exists.mp hafter
  refine ⟨ts, ts', fun name => ?_⟩
  have hquote : (Reader.mk ts .between).step '"' = some ⟨ts, .inName []⟩ := by
    simp [Reader.step, Place.goOn?, Place.ended?, begin?, isSpace, beginsWord]
  -- the opening quote begins the name, which is read up to its closing one, whatever it is; what
  -- follows begins a token of its own, and so it is read as if nothing stood before it
  rw [h name, Reader.read_append, hread, Option.bind_some, toList_quoteIdent, List.cons_append,
    List.append_assoc, List.singleton_append, Reader.read_cons, hquote, Option.bind_some,
    Reader.finish?_read_inName, readInside?_doubleQuotes _ hhead, Option.bind_some,
    Reader.finish?_read_between, hts', Option.map_some, List.append_assoc, List.singleton_append,
    List.reverse_nil, List.nil_append, String.ofList_toList]

end Encloses

/-- Whichever name a text is made of, it has the same tokens but for the name itself, which is one
    delimited identifier. -/
def Keeps (text : String → String) : Prop :=
  ∃ before after : List Token, ∀ name, tokens? (text name) = some (before ++ .name name :: after)

theorem Keeps.of_encloses {text : String → String} {before after : List Char}
    (h : Encloses (fun name => (text name).toList) before after)
    (hcan : canEnclose before after = true) : Keeps text := h.exists_tokens hcan

end Sql

/-- Whether a call is one to the registry; the others are to the operations database. -/
def StoreCall.asksRegistry : StoreCall → Bool
  | ensureSchema _ _ _ | schemaExists _ => false
  | _ => true

namespace Postgres

open Sql (Token tokens? quoteIdent qualified searchPathStatement readQuoted?)

theorem toList_block (margin : Nat) (lines : List String) :
    (block margin lines).toList = ['\n'] ++ ((lines.flatMap fun line =>
      List.replicate margin ' ' ++ (line.toList ++ ['\n'])) ++ List.replicate margin ' ') := by
  simp [block, String.toList_join, List.flatMap_def, Function.comp_def]

theorem toList_logColumns : RegistryStatement.logColumns.toList =
    "id, tenant_id, module_name, action, schema_name, status, error_message, provisioned_by, ".toList
      ++ "created_at".toList := String.toList_append

open RegistryStatement in
/-- A call to the registry is one statement, whose text has the same tokens for every registry, but
    for the registry's schema. -/
theorem exists_query (c : StoreCall) (hc : c.asksRegistry = true) :
    ∃ text : String → String, Sql.Keeps text ∧ ∀ client : Client, ∃ s read,
      client.onStores c = PoolProgram.query .registry s read ∧
        s.text = text client.registrySchema := by
  cases c
  case ensureSchema => cases hc
  case schemaExists => cases hc
  case' findTenant t =>
    refine ⟨fun schema => (findTenant schema t).text, ?_, fun client => ⟨_, _, rfl, rfl⟩⟩
  case' isActive t =>
    refine ⟨fun schema => (isActive schema t).text, ?_, fun client => ⟨_, _, rfl, rfl⟩⟩
  case' hasModule t m =>
    refine ⟨fun schema => (hasModule schema t m).text, ?_, fun client => ⟨_, _, rfl, rfl⟩⟩
  case' setModuleSchema t m name =>
    refine ⟨fun schema => (setModuleSchema schema t m name).text, ?_,
      fun client => ⟨_, _, rfl, rfl⟩⟩
    cases m
  case' insertAudit e =>
    refine ⟨fun schema => (insertAudit schema e).text, ?_, fun client => ⟨_, _, rfl, rfl⟩⟩
  case' updateAudit target status error =>
    refine ⟨fun schema => (updateAudit schema target status error).text, ?_,
      fun client => ⟨_, _, rfl, rfl⟩⟩
    cases target
  case' latestAudit t m =>
    refine ⟨fun schema => (latestAudit schema t m).text, ?_, fun client => ⟨_, _, rfl, rfl⟩⟩
  case' stalledAudits m cutoff =>
    refine ⟨fun schema => (stalledAudits schema m cutoff).text, ?_,
      fun client => ⟨_, _, rfl, rfl⟩⟩
  -- what is left to show of each statement is what stands around the schema in its text
  all_goals
    apply Sql.Keeps.of_encloses
    case h =>
      simp only [findTenant, isActive, hasModule, setModuleSchema, insertAudit, updateAudit,
        latestAudit, stalledAudits, Statement.prepared, toList_block, List.flatMap_cons,
        List.flatMap_nil, tenants, log, toList_logColumns, ServiceModule.schemaColumn, qualified,
        String.toList_append, List.append_assoc]
      repeat with_reducible apply Sql.Encloses.there
      with_reducible apply Sql.Encloses.here
    case hcan =>
      -- characters are quicker to read than the bytes of a literal
      simp only [Sql.toList_quoteIdent]
      repeat rw [String.toList_ofList]
      decide +kernel

/-- No name escapes from its quotes. A delimited identifier is read back as its name, whatever
    follows it, but for a further quote; so are the two identifiers of a qualified name and the one
    in the statement that sets the search path, with nothing but fixed text around them. The
    statement of each call to the registry has the same tokens for every registry, but for one
    identifier, which is the registry's schema. -/
theorem names_stay_quoted :
    (∀ (name : String) (rest : List Char), rest.head? ≠ some '"' →
      readQuoted? ((quoteIdent name).toList ++ rest) = some (name.toList, rest)) ∧
    (∀ schema table : String, ∃ rest,
      readQuoted? (qualified schema table).toList = some (schema.toList, '.' :: rest) ∧
        readQuoted? rest = some (table.toList, [])) ∧
    (∀ schema : String, ∃ rest,
      (searchPathStatement schema).toList = "SET search_path TO ".toList ++ rest ∧
        readQuoted? rest = some (schema.toList, ", public".toList)) ∧
    (∀ schema table schema' table' : String, qualified schema table = qualified schema' table' ↔
      schema = schema' ∧ table = table') ∧
    (∀ schema schema' : String,
      searchPathStatement schema = searchPathStatement schema' ↔ schema = schema') ∧
    ∀ c : StoreCall, c.asksRegistry = true → ∃ before after : List Token, ∀ client : Client,
      ∃ s read, client.onStores c = PoolProgram.query .registry s read ∧
        tokens? s.text = some (before ++ .name client.registrySchema :: after) := by
  refine ⟨Sql.readQuoted?_quoteIdent, fun schema table => ?_, fun schema => ?_,
    fun schema table schema' table' => ⟨Sql.qualified_injective, ?_⟩, fun schema schema' => ?_,
    fun c hc => ?_⟩
  · exact ⟨_, Sql.readQuoted?_qualified schema table, Sql.readQuoted?_quoteIdent_end table⟩
  · exact ⟨_, Sql.toList_searchPathStatement schema, Sql.readQuoted?_quoteIdent schema _ (by simp)⟩
  · rintro ⟨rfl, rfl⟩
    rfl
  · exact ⟨Sql.searchPathStatement_injective, congrArg searchPathStatement⟩
  · obtain ⟨text, ⟨before, after, htokens⟩, hquery⟩ := exists_query c hc
    refine ⟨before, after, fun client => ?_⟩
    obtain ⟨s, read, hsent, htext⟩ := hquery client
    exact ⟨s, read, hsent, by rw [htext, htokens]⟩

/-- A name that closes its quote, ends the statement and begins one of its own is read as a name. -/
theorem names_stay_quoted_hostile :
    readQuoted? ((quoteIdent "x\", public; DROP SCHEMA registry CASCADE; --").toList ++
        ", public".toList) =
      some ("x\", public; DROP SCHEMA registry CASCADE; --".toList, ", public".toList) ∧
    ∃ before after : List Token, ∀ client : Client, ∃ s read,
      client.onStores (.setModuleSchema .nil .finance "acme_finance") =
          PoolProgram.query .registry s read ∧
        tokens? s.text = some (before ++ .name client.registrySchema :: after) :=
  ⟨names_stay_quoted.1 _ _ (by decide +kernel),
    names_stay_quoted.2.2.2.2.2 (.setModuleSchema .nil .finance "acme_finance") rfl⟩

end Postgres

end Tenancy
