import Ngotag.OrgRolesGuard
import Ngotag.ShellWords

/-!
The command that `AgentProvisioningService.walletProvision` has a shell run.
Twenty-seven values are pasted behind the script's path, four of them between double
quotes. They arrive as they are exactly when each of them is harmless in its place
and there is no ledger; with ledgers the JSON arrives when no string in it has anything
to escape (`provision_iff`). What the gateway lets in does not see to that
(`password_runs`).
-/
namespace Ngotag.ProvisionCommand
open ShellWords OrgRolesGuard

/-- What a template literal is given. -/
inductive Value where
  | undefined
  | null
  | string (value : String)

def Value.text : Value → String
  | undefined => "undefined"
  | null => "null"
  | string value => value
/-- The working directory of a service and its `process.env`. -/
structure Process where
  cwd : String
  env : String → Option String
  cwd_absolute : cwd.toList.head? = some '/'
def Process.value (process : Process) (name : String) : Value := (process.env name).elim .undefined .string
/-- `process.env[name] || ''` -/
def Process.orEmpty (process : Process) (name : String) : String := (process.env name).getD ""
/-- `IsNotSQLInjection` -/
def keywords : List String :=
    ["select","insert","update","delete","drop","union","alter","create","exec","from","where","and","or"]
def wordCharacter (c : Char) : Bool := c.isAlphanum || c = '_'
def startInjection (value : String) : Bool :=
  keywords.any fun keyword => (value.toList.take keyword.length).map Char.toLower = keyword.toList &&
    !((value.toList.drop keyword.length).head?.any wordCharacter)
/-- The `name` of a `CreateOrganizationDto`, trimmed. -/
def acceptedName (name : String) : Bool :=
  trim name = name && 2 ≤ name.length && name.length ≤ 200 && !startInjection name
/-- The `walletName` of an `AgentSpinupDto`, and `AgentSpinupValidator`. -/
def acceptedWalletName (walletName : String) : Bool :=
  2 ≤ walletName.length && walletName.length ≤ 25 && walletName.toList.all Char.isAlphanum
def acceptedPassword : Value → Bool
  | .string walletPassword => trim walletPassword = walletPassword && walletPassword ≠ ""
  | _ => true
def acceptedSeed : Value → Bool
  | .string seed => seed.length ≤ 32 && seed.toList.all fun c => !Spelling.blank c
  | _ => true
structure Organisation where
  id : String
  name : String
  accepted : acceptedName name = true

structure AgentSpinup where
  walletName : String
  walletPassword : Value
  seed : Value
  tenant : Bool
  acceptedWalletName : acceptedWalletName walletName = true
  acceptedPassword : acceptedPassword walletPassword = true
  acceptedSeed : acceptedSeed seed = true
structure PlatformConfig where
  externalIp : String
  apiEndpoint : String
  inboundEndpoint : Option String
  externalIp_given : externalIp ≠ ""
  apiEndpoint_given : apiEndpoint ≠ ""

structure Ledger where
  poolConfig : String
  indyNamespace : Option String
def ledgerJson (ledger : Ledger) : List Char :=
  "\x7b\"genesisTransactions\":".toList ++ (Json.quote ledger.poolConfig ++ (",\"indyNamespace\":".toList ++
    (ledger.indyNamespace.elim "null".toList Json.quote ++ ['\x7d'])))
def ledgersRest : List Ledger → List Char
  | [] => [']']
  | ledger :: rest => ',' :: (ledgerJson ledger ++ ledgersRest rest)
/-- `JSON.stringify(ledgerArray)` -/
def ledgersJson : List Ledger → List Char
  | [] => ['[',']']
  | ledger :: rest => '[' :: (ledgerJson ledger ++ ledgersRest rest)

structure WalletProvision where
  orgId : String
  externalIp : String
  walletName : String
  walletPassword : Value
  seed : Value
  webhookEndpoint : String
  walletStorageHost : String
  walletStoragePort : String
  walletStorageUser : String
  walletStoragePassword : String
  inboundEndpoint : Value
  containerName : String
  indyLedger : List Char
  credoImage : String
  protocol : String
  tenant : Bool

/-- `name.split(' ').join('_')` -/
def containerName (name : String) : String := String.ofList (name.toList.map fun c => if c = ' ' then '_' else c)
/-- `platformConfig?.inboundEndpoint !== 'false' ? platformConfig?.inboundEndpoint : ''` -/
def inboundEndpoint (platform : PlatformConfig) : Value :=
  match platform.inboundEndpoint with
  | none => .null
  | some endpoint => .string (if endpoint ≠ "false" then endpoint else "")

/-- `service` is the environment of the agent service. The replacement of the quotes is
    `escapeQuotes`. -/
def prepareWalletProvisionPayload (service : Process) (agentSpinup : AgentSpinup) (platform : PlatformConfig)
    (ledgerDetails : List Ledger) (orgData : Organisation) : WalletProvision where
  orgId := orgData.id
  externalIp := platform.externalIp
  walletName := agentSpinup.walletName
  walletPassword := agentSpinup.walletPassword
  seed := agentSpinup.seed
  webhookEndpoint := platform.apiEndpoint
  walletStorageHost := service.orEmpty "WALLET_STORAGE_HOST"
  walletStoragePort := service.orEmpty "WALLET_STORAGE_PORT"
  walletStorageUser := service.orEmpty "WALLET_STORAGE_USER"
  walletStoragePassword := service.orEmpty "WALLET_STORAGE_PASSWORD"
  inboundEndpoint := inboundEndpoint platform
  containerName := containerName orgData.name
  indyLedger := escapeQuotes (ledgersJson ledgerDetails)
  credoImage := service.orEmpty "AFJ_VERSION"
  protocol := service.orEmpty "AGENT_PROTOCOL"
  tenant := agentSpinup.tenant

def bare (text : String) : Piece := .bare text.toList
def quoted (text : String) : Piece := .quoted text.toList
/-- `${process.cwd() + process.env.AFJ_AGENT_SPIN_UP}` -/
def script (provisioning : Process) : String := provisioning.cwd ++ (provisioning.value "AFJ_AGENT_SPIN_UP").text

def walletProvision (provisioning : Process) (payload : WalletProvision) (indyLedger : Piece) : List Piece :=
  [bare (script provisioning),bare payload.orgId,quoted payload.externalIp,quoted payload.walletName,
    quoted payload.walletPassword.text,bare payload.seed.text,bare payload.webhookEndpoint,bare
    payload.walletStorageHost,
    bare payload.walletStoragePort,bare payload.walletStorageUser,bare payload.walletStoragePassword,
    bare payload.containerName,bare payload.protocol,bare (toString payload.tenant),bare payload.credoImage,indyLedger,
    bare payload.inboundEndpoint.text,bare (provisioning.value "SCHEMA_FILE_SERVER_URL").text,
    bare (provisioning.value "AGENT_API_KEY").text,bare (provisioning.value "AWS_ACCOUNT_ID").text,
    bare (provisioning.value "S3_BUCKET_ARN").text,bare (provisioning.value "CLUSTER_NAME").text,
    bare (provisioning.value "TASKDEFINITION_FAMILY").text,bare (provisioning.value "ADMIN_TG_ARN").text,
    bare (provisioning.value "INBOUND_TG_ARN").text,bare (provisioning.value "FILESYSTEMID").text,
    bare (provisioning.value "ECS_SUBNET_ID").text,bare (provisioning.value "ECS_SECURITY_GROUP_ID").text]

section
variable (sh : Shell) (service provisioning : Process) (agentSpinup : AgentSpinup) (platform : PlatformConfig)
  (ledgers : List Ledger) (orgData : Organisation)

/-- The script is run, with the fields of the payload as they are. -/
def Passes : Prop :=
  let payload := prepareWalletProvisionPayload service agentSpinup platform ledgers orgData
  let command := walletProvision provisioning payload (.quoted payload.indyLedger)
  arguments sh (line command) = some (command.map Piece.text)
/-- With the JSON of the ledgers in the place of its escaped form. -/
def Conveys : Prop :=
  let payload := prepareWalletProvisionPayload service agentSpinup platform ledgers orgData
  arguments sh (line (walletProvision provisioning payload (.quoted payload.indyLedger))) =
    some ((walletProvision provisioning payload (.quoted (ledgersJson ledgers))).map Piece.text)
/-- Without quotes around it: not empty, no comment, nothing that a shell reads as more
    than a character, and no name or pattern that it replaces. -/
def Bare (text : String) : Prop := (bare text).Fits sh
def Quoted (text : String) : Prop := '\x00' ∉ text.toList ∧ '"' ∉ text.toList ∧ Dulls text.toList
/-- Nothing in the string is escaped in JSON by a backslash that the shell reads, or is read by
    the shell itself. -/
def Innocent : List Char → Prop
  | [] => True
  | c :: rest => c ≠ '"' ∧ c ≠ '\\' ∧ c ≠ '\x60' ∧ ¬(c = '$' ∧ expands rest.head? = true) ∧ Innocent rest
def InnocentLedger (ledger : Ledger) : Prop :=
  Innocent ledger.poolConfig.toList ∧ ∀ namespace_ ∈ ledger.indyNamespace, Innocent namespace_.toList

/-- The values without quotes around them that someone chooses. -/
def unquoted : List String :=
  [script provisioning,orgData.id,agentSpinup.seed.text,platform.apiEndpoint,service.orEmpty "WALLET_STORAGE_HOST",
    service.orEmpty "WALLET_STORAGE_PORT",service.orEmpty "WALLET_STORAGE_USER",service.orEmpty
    "WALLET_STORAGE_PASSWORD",
    containerName orgData.name,service.orEmpty "AGENT_PROTOCOL",service.orEmpty
        "AFJ_VERSION",(inboundEndpoint platform).text,
    (provisioning.value "SCHEMA_FILE_SERVER_URL").text,(provisioning.value "AGENT_API_KEY").text,
    (provisioning.value "AWS_ACCOUNT_ID").text,(provisioning.value "S3_BUCKET_ARN").text,
    (provisioning.value "CLUSTER_NAME").text,(provisioning.value "TASKDEFINITION_FAMILY").text,
    (provisioning.value "ADMIN_TG_ARN").text,(provisioning.value "INBOUND_TG_ARN").text,
    (provisioning.value "FILESYSTEMID").text,(provisioning.value "ECS_SUBNET_ID").text,
    (provisioning.value "ECS_SECURITY_GROUP_ID").text]

structure Harmless : Prop where
  bare : ∀ text ∈ unquoted service provisioning agentSpinup platform orgData, Bare sh text
  externalIp : Quoted platform.externalIp
  walletPassword : Quoted agentSpinup.walletPassword.text
end

/-- The character is read by no one. -/
def mute (c : Char) : Bool := c ≠ '\x60' && c ≠ '$' && c ≠ '\\'

theorem dulls_mute {mutes rest : List Char} (all_ : mutes.all mute = true) : Dulls (mutes ++ rest) ↔ Dulls rest := by
  induction mutes with
  | nil => rfl
  | cons c mutes ih =>
    rw [List.all_cons,Bool.and_eq_true] at all_
    have quiet := all_.1
    simp only [mute,Bool.and_eq_true,decide_eq_true_eq,ne_eq] at quiet
    rw [List.cons_append,Dulls,ih all_.2]
    simp [quiet.1.1,quiet.1.2,quiet.2]
theorem escape_control {c : Char} (control : c.toNat < 32) :
    ∃ d mutes, Json.escape c = '\\' :: d :: mutes ∧ (d :: mutes).all mute = true ∧ d ≠ '\n' ∧ escapable d = false ∧
      expands (some c) = false ∧ c ≠ '"' ∧ c ≠ '\\' ∧ c ≠ '\x60' ∧ c ≠ '$' := by
  have back : c = Char.ofNat c.toNat := (Char.ofNat_toNat c).symm
  generalize c.toNat = n at back control
  subst back
  interval_cases n <;> exact ⟨_,_,rfl,by decide,by decide,by decide,by decide,by decide,by decide,by decide,by decide⟩
theorem escape_plain {c : Char} (double : c ≠ '"') (backslash : c ≠ '\\') (printed : ¬c.toNat < 32) : Json.escape c = [c] := by
  rw [Json.escape,if_neg double,if_neg backslash,if_neg printed]

/-- What follows a dollar sign expands in the written string what it expands in the string. -/
theorem expands_escape (s rest : List Char) : expands (s.flatMap Json.escape ++ '"' :: rest).head? = expands s.head? := by
  cases s with
  | nil => rfl
  | cons c s =>
    rw [List.flatMap_cons]
    by_cases double : c = '"'
    · subst double
      rfl
    · by_cases backslash : c = '\\'
      · subst backslash
        rfl
      · by_cases control : c.toNat < 32
        · obtain ⟨d,mutes,written,-,-,-,quiet,-⟩ := escape_control control
          rw [written]
          exact quiet.symm
        · rw [escape_plain double backslash control]
          rfl

theorem string_dulls (s rest : List Char) :
    Dulls (s.flatMap Json.escape ++ '"' :: rest) ↔ Innocent s ∧ Dulls ('"' :: rest) := by
  induction s with
  | nil => exact (and_iff_right trivial).symm
  | cons c s ih =>
    rw [List.flatMap_cons,List.append_assoc,Innocent]
    by_cases double : c = '"'
    · subst double
      refine iff_of_false ?_ fun all_ => all_.1.1 rfl
      rintro ⟨-,-,escape,-⟩
      obtain ⟨d,next,-,plain⟩ := escape rfl
      cases next
      cases plain
    · by_cases backslash : c = '\\'
      · subst backslash
        refine iff_of_false ?_ fun all_ => all_.1.2.1 rfl
        rintro ⟨-,-,escape,-⟩
        obtain ⟨d,next,-,plain⟩ := escape rfl
        cases next
        cases plain
      · by_cases control : c.toNat < 32
        · obtain ⟨d,mutes,written,quiet,joins,plain,-,-,-,back,dollar⟩ := escape_control control
          have later : Dulls ((d :: mutes) ++ (s.flatMap Json.escape ++ '"' :: rest)) ↔ _ := dulls_mute quiet
          rw [written,List.cons_append,Dulls,later,ih]
          simp [double,backslash,back,dollar,joins,plain]
        · rw [escape_plain double backslash control,List.singleton_append,Dulls,expands_escape,ih]
          simp [double,backslash,and_assoc]

theorem quote_dulls (s : String) (rest : List Char) : Dulls (Json.quote s ++ rest) ↔ Innocent s.toList ∧ Dulls rest := by
  have opens : Dulls ('"' :: (s.toList.flatMap Json.escape ++ '"' :: rest)) ↔ Dulls (s.toList.flatMap Json.escape ++ '"' :: rest) :=
    @dulls_mute ['"'] _ (by decide)
  have closes : Dulls ('"' :: rest) ↔ Dulls rest := @dulls_mute ['"'] rest (by decide)
  simp only [Json.quote,List.cons_append,List.append_assoc,List.nil_append]
  rw [opens,string_dulls,closes]
theorem fixed_mute :
    "\x7b\"genesisTransactions\":".toList.all mute = true ∧ ",\"indyNamespace\":".toList.all mute = true ∧
    "null".toList.all mute = true := by decide +kernel

theorem ledger_dulls (ledger : Ledger) (rest : List Char) :
    Dulls (ledgerJson ledger ++ rest) ↔ InnocentLedger ledger ∧ Dulls rest := by
  have ends : Dulls ('\x7d' :: rest) ↔ Dulls rest := @dulls_mute ['\x7d'] rest (by decide)
  have namespace_ : Dulls (ledger.indyNamespace.elim "null".toList Json.quote ++ '\x7d' :: rest) ↔
      (∀ name ∈ ledger.indyNamespace, Innocent name.toList) ∧ Dulls rest := by
    cases ledger.indyNamespace with
    | none =>
      rw [Option.elim_none,dulls_mute fixed_mute.2.2,ends]
      exact (and_iff_right nofun).symm
    | some name =>
      rw [Option.elim_some,quote_dulls,ends]
      exact and_congr_left' ⟨fun innocent _ same => Option.some.inj same ▸ innocent,fun all_ => all_ name rfl⟩
  unfold ledgerJson InnocentLedger
  rw [List.append_assoc,List.append_assoc,List.append_assoc,List.append_assoc,List.singleton_append]
  rw [dulls_mute fixed_mute.1,quote_dulls,dulls_mute fixed_mute.2.1,namespace_,and_assoc]

theorem ledgers_dulls (ledgers : List Ledger) :
    Dulls (ledgersJson ledgers) ↔ ∀ ledger ∈ ledgers, InnocentLedger ledger := by
  have others (ledgers : List Ledger) : Dulls (ledgersRest ledgers) ↔ ∀ ledger ∈ ledgers, InnocentLedger ledger := by
    induction ledgers with
    | nil => exact iff_of_true ⟨by decide,by decide,by decide,trivial⟩ nofun
    | cons ledger rest ih =>
      have comma : Dulls (',' :: (ledgerJson ledger ++ ledgersRest rest)) ↔
          Dulls (ledgerJson ledger ++ ledgersRest rest) :=
        @dulls_mute [','] _ (by decide)
      rw [ledgersRest,comma,ledger_dulls,ih,List.forall_mem_cons]
  cases ledgers with
  | nil => exact iff_of_true ⟨by decide,by decide,by decide,by decide,by decide,by decide,trivial⟩ nofun
  | cons ledger rest =>
    have opens : Dulls
        ('[' :: (ledgerJson ledger ++ ledgersRest rest)) ↔ Dulls (ledgerJson ledger ++ ledgersRest rest) :=
      @dulls_mute ['['] _ (by decide)
    rw [ledgersJson,opens,ledger_dulls,others,List.forall_mem_cons]

theorem escape_nul (c : Char) : '\x00' ∉ Json.escape c := by
  by_cases double : c = '"'
  · subst double
    decide
  · by_cases backslash : c = '\\'
    · subst backslash
      decide
    · by_cases control : c.toNat < 32
      · have back : c = Char.ofNat c.toNat := (Char.ofNat_toNat c).symm
        generalize c.toNat = n at back control
        subst back
        interval_cases n <;> decide
      · rw [escape_plain double backslash control,List.mem_singleton]
        rintro rfl
        exact control (by decide)

theorem quote_nul (s : String) : '\x00' ∉ Json.quote s := by
  simp only [Json.quote,List.mem_cons,List.mem_append,List.mem_flatMap,not_or,not_exists,not_and]
  exact ⟨by decide,fun c _ => escape_nul c,by decide,List.not_mem_nil⟩
theorem fixed_nul : '\x00' ∉ "\x7b\"genesisTransactions\":".toList ∧ '\x00' ∉ ",\"indyNamespace\":".toList ∧
    '\x00' ∉ "null".toList := by decide +kernel

theorem ledger_nul (ledger : Ledger) : '\x00' ∉ ledgerJson ledger := by
  have namespace_ : '\x00' ∉ ledger.indyNamespace.elim "null".toList Json.quote := by
    cases ledger.indyNamespace with
    | none => exact fixed_nul.2.2
    | some name => exact quote_nul name
  unfold ledgerJson
  rw [List.mem_append,List.mem_append,List.mem_append,List.mem_append]
  rintro (opens | quoted | names | named | ends)
  · exact fixed_nul.1 opens
  · exact quote_nul _ quoted
  · exact fixed_nul.2.1 names
  · exact namespace_ named
  · exact absurd ends (by decide)

theorem ledgers_nul (ledgers : List Ledger) : '\x00' ∉ ledgersJson ledgers := by
  have others (ledgers : List Ledger) : '\x00' ∉ ledgersRest ledgers := by
    induction ledgers with
    | nil => decide
    | cons ledger rest ih =>
      simp only [ledgersRest,List.mem_cons,List.mem_append,not_or]
      exact ⟨by decide,ledger_nul _,ih⟩
  cases ledgers with
  | nil => decide
  | cons ledger rest =>
    simp only [ledgersJson,List.mem_cons,List.mem_append,not_or]
    exact ⟨by decide,ledger_nul _,others rest⟩

section
variable {sh : Shell} {service provisioning : Process} {agentSpinup : AgentSpinup} {platform : PlatformConfig}
  {ledgers : List Ledger} {orgData : Organisation}

theorem quoted_fits (text : String) : (quoted text).Fits sh ↔ Quoted text := by
  rw [Piece.Fits,Quoted]
  exact ⟨fun fits => ⟨fits.1,fits.2.1⟩,fun whole => ⟨whole.1,whole.2,expanded_inert _⟩⟩
theorem escaped_fits : (Piece.escaped (ledgersJson ledgers)).Fits sh ↔ ∀ ledger ∈ ledgers, InnocentLedger ledger := by
  rw [← ledgers_dulls]
  exact ⟨fun fits => fits.2.1,fun dulls => ⟨ledgers_nul ledgers,dulls,expanded_inert _⟩⟩

theorem literal_fits : (Piece.quoted (escapeQuotes (ledgersJson ledgers))).Fits sh ↔ ledgers = [] := by
  constructor
  · intro fits
    cases ledgers with
    | nil => rfl
    | cons ledger rest =>
      have inside : '"' ∈ ledgersJson (ledger :: rest) :=
        List.mem_cons_of_mem _
        (List.mem_append_left _ (List.mem_append_right _ (List.mem_append_left _ List.mem_cons_self)))
      rw [← List.count_pos_iff,← (escapeQuotes_counts _).2.2.1,List.count_pos_iff] at inside
      exact absurd inside fits.2.1.1
  · rintro rfl
    exact ⟨by decide,⟨by decide,by decide,by decide,by decide,by decide,by decide,by decide,trivial⟩,expanded_inert _⟩

theorem alphanum_ne {c : Char} (letter : c.isAlphanum = true) {d : Char} (other : d.isAlphanum = false) : c ≠ d := by
  rintro rfl
  cases letter.symm.trans other
theorem solids_alphanum {text : List Char} (letters : text.all Char.isAlphanum = true) : Solids text := by
  induction text with
  | nil => trivial
  | cons c rest ih =>
    rw [List.all_cons,Bool.and_eq_true] at letters
    have ne {d : Char} (other : d.isAlphanum = false) : c ≠ d := alphanum_ne letters.1 other
    refine ⟨⟨?_,⟨ne rfl,ne rfl,ne rfl,ne rfl⟩,?_,fun spent => absurd spent.1 (ne rfl)⟩,ih letters.2⟩
    · simp [blank,@ne ' ' rfl,@ne '\t' rfl]
    · simp [operator,@ne '\n' rfl,@ne '|' rfl,@ne '&' rfl,@ne ';' rfl,@ne '<' rfl,@ne '>' rfl,@ne '(' rfl,@ne ')' rfl]

theorem bare_alphanum {text : String} (some_ : text.toList ≠ []) (letters : text.toList.all Char.isAlphanum = true) :
    Bare sh text := by
  have ne {c d : Char} (inside : c ∈ text.toList) (other : d.isAlphanum = false) : c ≠ d :=
    alphanum_ne (List.all_eq_true.mp letters c inside) other
  refine ⟨fun zero => ne zero rfl rfl,⟨some_,fun comment => ?_,solids_alphanum letters⟩,?_⟩
  · exact ne (List.mem_of_mem_head? comment) rfl rfl
  · have patternless : pattern (bare text).word = false := by
      refine Bool.eq_false_iff.mpr fun any_ => ?_
      obtain ⟨c,inside,wild⟩ := List.any_eq_true.mp any_
      obtain ⟨d,listed,rfl⟩ := List.mem_map.mp inside
      simp [@ne d '*' listed rfl,@ne d '?' listed rfl,@ne d '[' listed rfl] at wild
    have homeless : tilde sh (bare text).word = false := by
      change tilde sh (text.toList.map fun c => (c,true)) = false
      cases h : text.toList with
      | nil => rfl
      | cons c rest =>
        rw [List.map_cons,tilde]
        rintro _ same
        exact ne (by rw [h]; exact List.mem_cons_self) rfl (congrArg Prod.fst (List.cons.inj same).1)
    rw [expanded,homeless,patternless]
    rfl

theorem dulls_alphanum {text : List Char} (letters : text.all Char.isAlphanum = true) : Dulls text := by
  have quiet : text.all mute = true := by
    refine List.all_eq_true.mpr fun c inside => ?_
    have ne {d : Char} (other : d.isAlphanum = false) : c ≠ d := alphanum_ne (List.all_eq_true.mp letters c inside) other
    simp [mute,@ne '\x60' rfl,@ne '$' rfl,@ne '\\' rfl]
  exact List.append_nil text ▸ (dulls_mute quiet).mpr trivial
theorem quoted_alphanum {text : String} (letters : text.toList.all Char.isAlphanum = true) : Quoted text := by
  have ne {d : Char} (other : d.isAlphanum = false) : d ∉ text.toList := fun inside =>
    alphanum_ne (List.all_eq_true.mp letters d inside) other rfl
  exact ⟨ne rfl,ne rfl,dulls_alphanum letters⟩
theorem script_path : (script provisioning).toList.head? = some '/' := by
  have path := provisioning.cwd_absolute
  rw [script,String.toList_append]
  cases cwd : provisioning.cwd.toList with
  | nil => rw [cwd] at path; cases path
  | cons c rest => exact (congrArg List.head? cwd).symm.trans path

/-- The command comes through with a given piece for the ledgers exactly when that piece
    fits and the rest is harmless. -/
theorem command_iff (indyLedger : Piece) :
    arguments sh (line (walletProvision provisioning
        (prepareWalletProvisionPayload service agentSpinup platform ledgers orgData) indyLedger)) =
      some ((walletProvision provisioning (prepareWalletProvisionPayload service agentSpinup platform ledgers orgData) indyLedger).map Piece.text) ↔
      Harmless sh service provisioning agentSpinup platform orgData ∧ indyLedger.Fits sh := by
  have walletName : (quoted agentSpinup.walletName).Fits sh := by
    have accepted := agentSpinup.acceptedWalletName
    rw [acceptedWalletName,Bool.and_eq_true] at accepted
    exact (quoted_fits _).mpr (quoted_alphanum accepted.2)
  have tenant : (bare (toString agentSpinup.tenant)).Fits sh := by
    cases agentSpinup.tenant with
    | true => exact bare_alphanum (by decide +kernel) (by decide +kernel)
    | false => exact bare_alphanum (by decide +kernel) (by decide +kernel)
  have named : keyword (bare (script provisioning)).word = false := keyword_path script_path
  have each : Harmless sh service provisioning agentSpinup platform orgData ↔
      (∀ text ∈ unquoted service provisioning agentSpinup platform orgData,(bare text).Fits sh) ∧
        (quoted platform.externalIp).Fits sh ∧ (quoted agentSpinup.walletPassword.text).Fits sh := by
    rw [quoted_fits,quoted_fits]
    exact ⟨fun harmless => ⟨harmless.bare,harmless.externalIp,harmless.walletPassword⟩,fun all_ =>
        ⟨all_.1,all_.2.1,all_.2.2⟩⟩
  rw [reads_iff (by rw [walletProvision]; exact List.cons_ne_nil _ _),each]
  refine (and_iff_left named).trans ?_
  simp only [walletProvision,unquoted,prepareWalletProvisionPayload,List.forall_mem_cons,List.not_mem_nil,false_imp_iff,
    implies_true,and_true]
  constructor
  · rintro ⟨path,orgId,externalIp,-,walletPassword,seed,webhook,host,port,user,password,container,protocol,-,
      image,ledgers,rest⟩
    exact ⟨⟨⟨path,orgId,seed,webhook,host,port,user,password,container,protocol,image,rest⟩,externalIp,walletPassword⟩,ledgers⟩
  · rintro ⟨⟨⟨path,orgId,seed,webhook,host,port,user,password,container,protocol,image,rest⟩,externalIp,walletPassword⟩,ledgers⟩
    exact ⟨path,orgId,externalIp,walletName,walletPassword,seed,webhook,host,port,user,password,container,
        protocol,tenant,image,
      ledgers,rest⟩

end

/-- The command passes exactly where its parts are harmless and there are no ledgers; it conveys
    the ledgers exactly where these are innocent as well. -/
theorem provision_iff (sh : Shell) (service provisioning : Process) (agentSpinup : AgentSpinup)
    (platform : PlatformConfig)
    (ledgers : List Ledger) (orgData : Organisation) :
    (Passes sh service provisioning agentSpinup platform ledgers orgData ↔
      Harmless sh service provisioning agentSpinup platform orgData ∧ ledgers = []) ∧
    (Conveys sh service provisioning agentSpinup platform ledgers orgData ↔
      Harmless sh service provisioning agentSpinup platform orgData ∧ ∀ ledger ∈ ledgers, InnocentLedger ledger) := by
  constructor
  · rw [← @literal_fits sh]
    exact command_iff _
  · rw [← @escaped_fits sh]
    exact command_iff (.escaped (ledgersJson ledgers))

def bareShell : Shell := ⟨fun _ => false,fun _ => false⟩
def plainService : Process where
  cwd := "/app"
  env := fun name => if name = "AFJ_AGENT_SPIN_UP" then some "/start.sh" else some "x"
  cwd_absolute := by decide +kernel
def plainPlatform : PlatformConfig := ⟨"10.0.0.1","https://platform.test",none,by decide +kernel,by decide +kernel⟩
def plainOrganisation : Organisation := ⟨"org","Org Ltd",by decide +kernel⟩
/-- A password that the gateway takes, and every other value harmless. -/
def commandPassword : AgentSpinup where
  walletName := "wallet"
  walletPassword := .string "$(reboot)"
  seed := .string "seed"
  tenant := false
  acceptedWalletName := by decide +kernel
  acceptedPassword := by decide +kernel
  acceptedSeed := by decide +kernel

/-- The shell runs what the password has between the brackets. -/
theorem password_runs :
    ¬∀ (sh : Shell) (service provisioning : Process) (agentSpinup : AgentSpinup) (platform : PlatformConfig)
    (ledgers : List Ledger) (orgData : Organisation),
    Passes sh service provisioning agentSpinup platform ledgers orgData ∨
      Conveys sh service provisioning agentSpinup platform ledgers orgData := by
  intro every
  rcases every bareShell plainService plainService commandPassword plainPlatform
      [] plainOrganisation with passes | conveys
  · revert passes
    unfold Passes
    decide +kernel
  · revert conveys
    unfold Conveys
    decide +kernel

end Ngotag.ProvisionCommand
