import Ngotag.IssuerTemplates
import Ngotag.JsObject

/-!
The credential configurations of an issuer, built from its templates, and the id under which an offer names
one. The configurations have an entry for each template exactly when their keys differ
(`configurations_eq`); the two sides map the format of a template on their own, and where these maps agree is
`supportedId_eq`.
-/
namespace Ngotag.CredentialConfigurations
open IssuerTemplates (CredentialTemplate)
open JsObject

inductive CredentialFormat where
  | SdJwtVc
  | Mdoc
  deriving DecidableEq
structure ClaimDisplay where
  name : String
  locale : Option String
  deriving DecidableEq
inductive CredentialAttribute where
  | mk (key : String) (mandatory : Bool) (display : Option (List ClaimDisplay)) (children : List CredentialAttribute)
structure Namespace where
  namespace_ : String
  attributes : List CredentialAttribute

/-- What the column `attributes` holds: `SdJwtTemplate` or `MdocTemplate`. -/
structure Template where
  vct : Option String
  doctype : Option String
  attributes : Option (List CredentialAttribute)
  namespaces : Option (List Namespace)
structure Image where
  uri : String
  alt_text : Option String
  deriving DecidableEq
structure CredentialDisplayItem where
  name : Option String
  locale : Option String
  description : Option String
  logo : Option Image
  background_image : Option String
  background_color : Option String
  text_color : Option String
  deriving DecidableEq

structure Appearance where
  display : Option (List CredentialDisplayItem)
/-- How the columns with JSON are read; the appearance after `coerceJsonObject`. -/
structure Columns where
  attributes : String → Template
  appearance : String → Option Appearance
structure Claim where
  path : List String
  display : Option (List ClaimDisplay)
  mandatory : Bool
  deriving DecidableEq
/-- A signing algorithm by its name or by its number. -/
inductive Alg where
  | name (alg : String)
  | number (alg : Int)
  deriving DecidableEq

structure CredentialConfig where
  format : CredentialFormat
  scope : String
  vct : Option String
  doctype : Option String
  credential_signing_alg_values_supported : List Alg
  cryptographic_binding_methods_supported : List String
  proof_signing_alg_values_supported : List String
  claims : List Claim
  display : List CredentialDisplayItem
  deriving DecidableEq

mutual

def claimOf (namespace_ : Option String) (parentPath : List String) : CredentialAttribute → List Claim
  | .mk key mandatory display children =>
    let currentPath := parentPath ++ [key]
    ⟨namespace_.toList ++ currentPath,display,mandatory⟩ :: generateClaims namespace_ currentPath children
def generateClaims (namespace_ : Option String) (parentPath : List String) : List CredentialAttribute → List Claim
  | [] => []
  | attr :: rest => claimOf namespace_ parentPath attr ++ generateClaims namespace_ parentPath rest
end

/-- Attributes that are missing are not iterated over. -/
def buildClaimsFromTemplate (template : Template) : Option (List Claim) :=
  match template.namespaces with
  | some namespaces =>
    some (namespaces.flatMap fun ns => generateClaims (some ns.namespace_ |>.filter (· ≠ "")) [] ns.attributes)
  | none => template.attributes.map (generateClaims none [])
def interpolated (value : Option String) : String := value.getD "undefined"
def formatSuffix : CredentialFormat → String
  | .SdJwtVc => "sdjwt"
  | .Mdoc => "mdoc"
def key (name : String) (format : CredentialFormat) : String := name ++ "-" ++ formatSuffix format

def buildSdJwtCredentialConfig (template : Template) (claims : List Claim) : CredentialConfig where
  format := .SdJwtVc
  scope := "openid4vc:" ++ interpolated template.vct ++ "-" ++ formatSuffix .SdJwtVc
  vct := template.vct
  doctype := none
  credential_signing_alg_values_supported := [.name "ES256",.name "EdDSA"]
  cryptographic_binding_methods_supported := ["did:key","did:web","did:jwk","jwk"]
  proof_signing_alg_values_supported := ["ES256","EdDSA"]
  claims := claims
  display := []

def buildMdocCredentialConfig (template : Template) (claims : List Claim) : CredentialConfig where
  format := .Mdoc
  scope := "openid4vc:" ++ interpolated template.doctype ++ "-" ++ formatSuffix .Mdoc
  vct := none
  doctype := template.doctype
  credential_signing_alg_values_supported := [.number (-7),.number (-9)]
  cryptographic_binding_methods_supported := ["cose_key"]
  proof_signing_alg_values_supported := ["ES256","EdDSA"]
  claims := claims
  display := []

def buildCredentialConfig (name : String) (template : Template) (format : CredentialFormat) :
    Option (String × CredentialConfig) :=
  (buildClaimsFromTemplate template).map fun claims =>
    match format with
    | .SdJwtVc => (key name .SdJwtVc,buildSdJwtCredentialConfig template claims)
    | .Mdoc => (key name .Mdoc,buildMdocCredentialConfig template claims)
/-- Every other format is taken for an SD-JWT. -/
def advertisedFormat (format : String) : CredentialFormat := if format = "mso_mdoc" then .Mdoc else .SdJwtVc
def displayed (entry : CredentialDisplayItem) : CredentialDisplayItem :=
  { entry with background_image := entry.background_image.filter (· ≠ "") }

variable (columns : Columns)
def configOf (templateRow : CredentialTemplate) : Option (String × CredentialConfig) :=
  match buildCredentialConfig templateRow.name (columns.attributes templateRow.attributes)
      (advertisedFormat templateRow.format),columns.appearance templateRow.appearance with
  | some (dynamicKey,config),some appearance =>
    some (dynamicKey,{ config with display := (appearance.display.getD []).map displayed })
  | _,_ => none

/-- The rows in order, each assigned to the record of those before it. -/
def assignConfigs (credentialConfigMap : List (String × CredentialConfig)) :
    List CredentialTemplate → Option (List (String × CredentialConfig))
  | [] => some credentialConfigMap
  | templateRow :: rest =>
    (configOf columns templateRow).bind fun config => assignConfigs (put config.1 config.2 credentialConfigMap) rest

def buildCredentialConfigurationsSupported (templateRows : List CredentialTemplate) :
    Option (List (String × CredentialConfig)) :=
  assignConfigs columns [] templateRows
def mapDbFormatToApiFormat (dbFormat : String) : Option CredentialFormat :=
  let normalized := dbFormat.toLower
  if normalized ∈ ["sd-jwt","dc+sd-jwt","vc+sd-jwt","sdjwt","sd+jwt-vc"] then some .SdJwtVc
  else if normalized = "mso_mdoc" ∨ normalized = "mso-mdoc" ∨ normalized = "mdoc" then some .Mdoc
  else none
/-- Of a template whose format is not known no credential is offered. -/
def credentialSupportedId (template : CredentialTemplate) : Option String :=
  (mapDbFormatToApiFormat template.format).map (key template.name)
def configKey (template : CredentialTemplate) : String := key template.name (advertisedFormat template.format)
theorem key_name {name name' : String} {format format' : CredentialFormat} (same : key name format = key name' format') :
    name = name' := by
  have letters := congrArg String.toList same
  simp only [key,String.toList_append] at letters
  have last := congrArg List.getLast? letters
  cases format <;> cases format'
  case SdJwtVc.SdJwtVc | Mdoc.Mdoc =>
    exact String.toList_inj.mp (List.append_cancel_right (List.append_cancel_right letters))
  all_goals simp [formatSuffix] at last
/-- The two mappings of the format agree, or there is no offer. -/
def Agrees (format : String) : Prop := ∀ api, mapDbFormatToApiFormat format = some api → api = advertisedFormat format
instance (format : String) : Decidable (Agrees format) :=
  decidable_of_iff (∀ api ∈ mapDbFormatToApiFormat format,api = advertisedFormat format) Iff.rfl
theorem supportedId_eq {template : CredentialTemplate} {id : String} (agrees : Agrees template.format)
    (offered : credentialSupportedId template = some id) : id = configKey template := by
  obtain ⟨api,mapped,rfl⟩ := Option.map_eq_some_iff.mp offered
  rw [agrees api mapped,configKey]

variable {columns} {template : CredentialTemplate} {templates : List CredentialTemplate}
  {configs before : List (String × CredentialConfig)} {config : String × CredentialConfig}
theorem configOf_key (built : configOf columns template = some config) : config.1 = configKey template := by
  unfold configOf at built
  split at built
  · rename_i dynamicKey built_ appearance one _
    cases built
    obtain ⟨claims,-,same⟩ := Option.map_eq_some_iff.mp one
    unfold configKey
    cases advertised : advertisedFormat template.format <;> rw [advertised] at same <;> exact (Prod.mk.inj same).1.symm
  · cases built

theorem assignConfigs_eq (apart : (keys before ++ templates.map configKey).Nodup) :
    assignConfigs columns before templates = (templates.mapM (configOf columns)).map fun entries =>
    before ++ entries := by
  induction templates generalizing before with
  | nil => simp [assignConfigs]
  | cons template rest ih =>
    rw [assignConfigs,List.mapM_cons]
    cases built : configOf columns template with
    | none => rfl
    | some config =>
      have own := configOf_key built
      have fresh : config.1 ∉ keys before := by
        intro there
        rw [List.map_cons] at apart
        exact (List.nodup_append.mp apart).2.2 config.1 there config.1 (own ▸ List.mem_cons_self) rfl
      have apart' : (keys (put config.1 config.2 before) ++ rest.map configKey).Nodup := by
        rw [keys_put,if_neg fresh,own,List.append_assoc]
        exact apart
      show assignConfigs columns (put config.1 config.2 before) rest = _
      rw [ih apart',put_fresh fresh]
      cases rest.mapM (configOf columns) with
      | none => rfl
      | some entries => simp

theorem mapM_key (built : templates.mapM (configOf columns) = some configs) :
    keys configs = templates.map configKey := by
  induction templates generalizing configs with
  | nil => exact Option.some.inj built ▸ rfl
  | cons template rest ih =>
    rw [List.mapM_cons] at built
    obtain ⟨config,one,built⟩ := Option.bind_eq_some_iff.mp built
    obtain ⟨entries,others,built⟩ := Option.bind_eq_some_iff.mp built
    obtain rfl := Option.some.inj built
    show config.1 :: keys entries = _
    rw [configOf_key one,ih others,List.map_cons]

theorem mapM_some {α β : Type} {f : α → Option β} {values : List α} {images : List β} :
    values.mapM f = some images ↔ (∀ value ∈ values, (f value).isSome = true) ∧ values.filterMap f = images := by
  induction values generalizing images with
  | nil => simp
  | cons value rest ih =>
    rw [List.mapM_cons,List.forall_mem_cons]
    cases first : f value with
    | none => simp
    | some image =>
      rw [List.filterMap_cons_some first]
      cases later : rest.mapM f with
      | none =>
        have never := fun all => Option.some_ne_none _ ((ih.mpr ⟨all,rfl⟩).symm.trans later)
        simpa using fun all => absurd all never
      | some others =>
        obtain ⟨all,rfl⟩ := ih.mp later
        simpa using fun _ => all

theorem mapM_perm {others : List CredentialTemplate} (order : templates.Perm others)
    (built : templates.mapM (configOf columns) = some configs) :
    ∃ configs', others.mapM (configOf columns) = some configs' ∧ configs.Perm configs' := by
  obtain ⟨all,rfl⟩ := mapM_some.mp built
  exact ⟨_,mapM_some.mpr ⟨fun row listed => all row (order.mem_iff.mpr listed),rfl⟩,order.filterMap _⟩
theorem configurations_eq (apart : (templates.map configKey).Nodup) :
    buildCredentialConfigurationsSupported columns templates = templates.mapM (configOf columns) := by
  have apart' : (keys ([] : List (String × CredentialConfig)) ++ templates.map configKey).Nodup := apart
  rw [buildCredentialConfigurationsSupported,assignConfigs_eq apart']
  cases templates.mapM (configOf columns) <;> rfl

end Ngotag.CredentialConfigurations
