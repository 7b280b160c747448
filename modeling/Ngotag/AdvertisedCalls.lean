import Ngotag.AdvertisedRuns
import Ngotag.IssuerIsolation

/-!
Every step of a call keeps the agent and the rows in step, where it is fine; in every run of such steps each
quiet state advertises the stored templates (`advertised_of_meets`). A deletion that the agent is not told of
leaves the template advertised (`deleted_still_advertised`).
-/
namespace Ngotag.TemplateCalls
open Runs Recall
open KeyedTable
open OrgRolesGuard (trim)
open IssuerTemplates hiding Answer Outcome
open IssuerIsolation (bind_ok)
open CredentialConfigurations

section
variable {svc : Setting} {s t : State} {call : Nat} {answer : Answer} {process : Process} {db after : Database}
  {id issuerId : String}

theorem sound_ended (sound : Sound svc s) (now : s.calls[call]? = some process) (touch : process.touch = none)
    (deletes : process.deletes = none) (empties : process.empties = none) : Sound svc (State.set call (s,.ended)) :=
  sound_quiet sound now touch.symm trivial (fun _ _ => nofun) deletes rfl fun _ own =>
      absurd (own.symm.trans empties) (Option.some_ne_none _)

variable {job : Job} {at_ : PushAwait}
theorem wrote_sound {written : Except Failure Database} (sound : Sound svc s)
    (now : s.calls[call]? = some process) (touch : process.touch = none) (deletes : process.deletes = none)
    (empties : process.empties = none) (ok : ∀ db, written = .ok db →
      Sound svc (State.set call ({ s with db := db },.telling job issuerId s.pushes.length at_))) :
    Sound svc (State.set call (wrote s written job issuerId at_)) := by
  cases stored : written with
  | ok db => exact ok db stored
  | error failure => exact sound_ended sound now touch deletes empties

theorem createStep_sound {dto : CreateCredentialTemplate} {at_ : CreateAwait} (sound : Sound svc s)
    (now : s.calls[call]? = some (.createTemplate id dto issuerId at_))
    (fine : Fine svc s call answer (.createTemplate id dto issuerId at_)) :
    Sound svc (State.set call (createStep svc s id dto issuerId at_)) := by
  cases at_ with
  | getTemplateByNameForIssuer =>
    simp only [createStep]
    split
    · exact sound_quiet sound now rfl trivial (fun _ _ => nofun) rfl rfl fun _ => nofun
    · exact sound_ended sound now rfl rfl rfl
  | createTemplate =>
    refine wrote_sound sound now rfl rfl rfl fun db stored => ?_
    obtain ⟨apart,free,agrees⟩ := fine (by rw [stored]; rfl)
    obtain ⟨unused,changes⟩ := insertTemplate_changes stored
    refine sound_write sound now changes apart (fun row is => ?_) rfl ?_ rfl rfl rfl rfl rfl
    · exact Option.some.inj is ▸ ⟨free,agrees⟩
    · rw [unused]
      rfl

theorem updateStep_sound {templateId : String} {dto : UpdateCredentialTemplate} {at_ : UpdateAwait} (sound : Sound svc s)
    (now : s.calls[call]? = some (.updateTemplate templateId dto issuerId at_))
    (fine : Fine svc s call answer (.updateTemplate templateId dto issuerId at_)) :
    Sound svc (State.set call (updateStep svc s templateId dto issuerId at_)) := by
  have aims := sound.touches.aims _ (List.mem_iff_getElem?.mpr ⟨call,now⟩)
  cases at_ with
  | getTemplateById =>
    simp only [updateStep]
    split
    · rename_i template found
      exact sound_quiet sound now rfl (Keyed.find_some.mp found).2 (fun _ _ => nofun) rfl rfl fun _ => nofun
    · exact sound_ended sound now rfl rfl rfl
  | getTemplateByNameForIssuer template =>
    simp only [updateStep]
    split
    · exact sound_ended sound now rfl rfl rfl
    · exact sound_quiet sound now rfl aims (fun _ _ => nofun) rfl rfl fun _ => nofun
  | updateTemplate template =>
    simp only [updateStep]
    split
    · rename_i before found
      refine wrote_sound sound now rfl rfl rfl fun db stored => ?_
      obtain ⟨apart,free,agrees⟩ := fine before found (by rw [stored]; rfl)
      have is : (dto.applied issuerId before).id = templateId := (Keyed.find_some.mp found).2
      refine sound_write sound now (storeUpdate_changes is stored) apart (fun row new => ?_) rfl ?_
          ⟨rfl,?_,?_⟩ rfl rfl rfl rfl
      · exact Option.some.inj new ▸ ⟨free,agrees⟩
      · rw [found,← is]
        rfl
      · exact aims.trans is.symm
      · show (if issuerId = "" then _ else _) = _ ∨ (if issuerId = "" then _ else _) = _
        split
        · exact .inr rfl
        · exact .inl rfl
    · exact sound_ended sound now rfl rfl rfl

theorem deleteStep_sound {templateId : String} {at_ : DeleteAwait} (sound : Sound svc s)
    (now : s.calls[call]? = some (.deleteTemplate templateId issuerId at_))
    (fine : Fine svc s call answer (.deleteTemplate templateId issuerId at_)) :
    Sound svc (State.set call (deleteStep s templateId issuerId at_)) := by
  cases at_ with
  | getTemplateById =>
    simp only [deleteStep]
    split
    · exact sound_quiet sound now rfl trivial (fun _ _ => by rintro ⟨⟩) rfl rfl fun _ => by rintro ⟨⟩
    · exact sound_ended sound now rfl rfl rfl
  | deleteTemplate =>
    simp only [deleteStep]
    split
    · rename_i deleted found
      refine wrote_sound sound now rfl rfl rfl fun db stored => ?_
      obtain ⟨apart,own⟩ := fine deleted found
      refine sound_write sound now (storeRemoval_changes stored) apart
          (fun row => by rintro ⟨⟩) rfl ?_ own rfl rfl rfl rfl
      rw [found,← (Keyed.find_some.mp found).2]
      rfl
    · exact sound_ended sound now rfl rfl rfl

theorem issued_iff {publicId : String} : Issued db id publicId ↔
    (id,publicId) ∈ db.oidc_issuer.rows.map fun issuer => (issuer.id,issuer.publicIssuerId) := by
  simp only [Issued,List.mem_map,Prod.mk.injEq]
theorem demoteAll_issued (orgId : Option String) :
    ((demoteAll db orgId).rows.map fun issuer => (issuer.id,issuer.publicIssuerId)) =
      db.oidc_issuer.rows.map fun issuer => (issuer.id,issuer.publicIssuerId) := by
  rw [demoteAll,List.map_map]
  refine List.map_congr_left fun issuer _ => ?_
  simp only [Function.comp_apply,demote]
  split <;> rfl

variable {config : IssuerUpdation} {userId : String}
theorem change_issued {table : Keyed OidcIssuer.id} :
    ((table.change config.issuerId (config.applied userId) fun _ => rfl).rows.map fun issuer =>
      (issuer.id,issuer.publicIssuerId)) = table.rows.map fun issuer => (issuer.id,issuer.publicIssuerId) :=
  table.change_map config.issuerId (config.applied userId) (fun _ => rfl) fun _ => rfl

theorem updateOidcIssuerDetails_issued {rest : List OidcIssuer × OidcIssuer}
    (done : updateOidcIssuerDetails db userId config = .ok (after,rest)) :
    after.credential_templates = db.credential_templates ∧ ∀ id publicId, Issued after id publicId ↔
        Issued db id publicId := by
  unfold updateOidcIssuerDetails at done
  split at done
  · cases done
  · split at done
    · obtain ⟨_,stored,same⟩ := bind_ok.mp done
      cases same
      obtain ⟨issuers,templates⟩ := store_ok stored
      refine ⟨templates,fun id publicId => ?_⟩
      rw [issued_iff,issued_iff,issuers,change_issued,demoteAll_issued]
    · split at done
      · obtain ⟨_,stored,same⟩ := bind_ok.mp done
        cases same
        obtain ⟨issuers,templates⟩ := store_ok stored
        refine ⟨templates,fun id publicId => ?_⟩
        rw [issued_iff,issued_iff,issuers,change_issued]
      · cases done

theorem issuerUpdateStep_sound {at_ : IssuerUpdateAwait} (sound : Sound svc s)
    (now : s.calls[call]? = some (.oidcIssuerUpdate config userId at_)) :
    Sound svc (State.set call (issuerUpdateStep svc s config userId at_)) := by
  have names := sound.issuers.names _ (List.mem_iff_getElem?.mpr ⟨call,now⟩)
  cases at_ with
  | getOidcIssuerDetailsById =>
    simp only [issuerUpdateStep]
    split
    · rename_i issuer _ found _
      refine sound_quiet sound now rfl trivial (fun id publicId naming => ?_) rfl rfl fun _ => by rintro ⟨⟩
      cases naming
      exact named_of_issued sound.issuers (issued_of_find found)
    · exact sound_ended sound now rfl rfl rfl
  | updateOidcIssuerDetails publicIssuerId =>
    refine wrote_sound sound now rfl rfl rfl fun db stored => ?_
    cases done : updateOidcIssuerDetails s.db userId config with
    | error failure =>
      rw [done] at stored
      cases stored
    | ok result =>
      rw [done] at stored
      cases stored
      obtain ⟨templates,issued⟩ := updateOidcIssuerDetails_issued done
      refine sound_same sound now rfl rfl rfl issued templates rfl trivial (fun id publicId naming => ?_) rfl rfl
          fun _ => by rintro ⟨⟩
      exact names id publicId naming

theorem issuerDeleteStep_sound {at_ : IssuerDeleteAwait} (sound : Sound svc s)
    (now : s.calls[call]? = some (.deleteOidcIssuer id at_)) (fine : Fine svc s call answer (.deleteOidcIssuer id at_)) :
    Sound svc (State.set call (issuerDeleteStep svc s answer id at_)) := by
  have names := sound.issuers.names _ (List.mem_iff_getElem?.mpr ⟨call,now⟩)
  cases at_ with
  | getOidcIssuerDetailsById =>
    simp only [issuerDeleteStep]
    split
    · rename_i issuer _ found _
      refine sound_quiet sound now rfl trivial (fun issuerId publicId naming => ?_) rfl rfl fun _ => by rintro ⟨⟩
      cases naming
      exact named_of_issued sound.issuers (issued_of_find found)
    · exact sound_ended sound now rfl rfl rfl
  | _oidcGetIssuerById publicIssuerId =>
    simp only [issuerDeleteStep]
    split
    · split
      · exact sound_ended sound now rfl rfl rfl
      · exact sound_quiet sound now rfl trivial names rfl rfl fun _ => by rintro ⟨⟩
    · exact sound_ended sound now rfl rfl rfl
  | getTemplatesByIssuerId publicIssuerId issuerRecordId =>
    simp only [issuerDeleteStep]
    split
    · exact sound_quiet sound now rfl trivial names rfl rfl fun _ => by rintro ⟨⟩
    · exact sound_quiet sound now rfl trivial names rfl rfl fun _ => by rintro ⟨⟩
  | deleteTemplatesByIssuerId publicIssuerId issuerRecordId =>
    simp only [issuerDeleteStep]
    split
    · rename_i db stored
      obtain ⟨issuers,templates⟩ := store_ok stored
      refine sound_emptied sound now issuers (fun row => ?_)
          (fun other touch row held is => ?_) rfl trivial names rfl rfl rfl rfl
      · rw [templates,Keyed.mem_delete,decide_eq_false_iff_not]
      · by_cases same : other = call
        · rw [same,touchAt_now now] at held
          cases held
        · obtain ⟨p,there,its⟩ := touchAt_other same held
          exact fine p there touch its row is
    · exact sound_ended sound now rfl rfl rfl
  | deleteOidcIssuer publicIssuerId issuerRecordId emptied =>
    simp only [issuerDeleteStep]
    have own (id' : String) (full : Process.empties (.deleteOidcIssuer id (.deleteOidcIssuer publicIssuerId issuerRecordId emptied)) = some id') :
        emptied = true ∧ id' = id := by
      cases emptied with
      | false => cases full
      | true => exact ⟨rfl,(Option.some.inj full).symm⟩
    split
    · rename_i db issuer deleted
      unfold deleteIssuerRow at deleted
      split at deleted
      · cases deleted
      · rename_i issuer' found
        obtain ⟨_,stored,same⟩ := bind_ok.mp deleted
        cases same
        obtain ⟨issuers,templates⟩ := store_ok stored
        have issued := issued_of_find found
        obtain rfl := (names id publicIssuerId rfl id _ issued).mp rfl
        refine sound_removed sound now (fun id' publicId => ?_) templates issued rfl trivial rfl rfl rfl fun id' full =>
            (own id' full).2
        rw [Issued,Issued,issuers]
        constructor
        · rintro ⟨row,listed,rfl,rfl⟩
          obtain ⟨there,apart⟩ := Keyed.mem_delete.mp listed
          exact ⟨⟨row,there,rfl,rfl⟩,of_decide_eq_false apart⟩
        · rintro ⟨⟨row,there,rfl,rfl⟩,apart⟩
          exact ⟨row,Keyed.mem_delete.mpr ⟨there,decide_eq_false apart⟩,rfl,rfl⟩
    · rename_i failure refused
      refine sound_quiet sound now rfl trivial (fun _ _ => by rintro ⟨⟩) rfl rfl fun id' full publicId issued => ?_
      obtain ⟨emptied,rfl⟩ := own id' full
      obtain ⟨row,listed,is,-⟩ := issued
      have stored : (s.db.oidc_issuer.find id').isSome = true := by
        rw [Keyed.find_some.mpr ⟨listed,is⟩]
        rfl
      exact absurd (fine emptied stored) (by rw [refused]; rintro ⟨⟩)
  | _deleteOidcIssuer publicIssuerId issuerRecordId =>
    obtain ⟨rfl,records⟩ := fine
    refine sound_gone sound now (fun record => ?_) rfl rfl rfl
    rw [Keyed.mem_delete,decide_eq_false_iff_not]
    exact and_congr_right fun listed => not_congr (records record listed)

variable {mark : Nat}
theorem caught_sound (sound : Sound svc s)
    (now : s.calls[call]? = some (.telling job issuerId mark at_)) (kept : job.isDelete = false) :
    Sound svc (State.set call (s,job.caught issuerId mark)) := by
  have aims := sound.touches.aims _ (List.mem_iff_getElem?.mpr ⟨call,now⟩)
  cases job with
  | createTemplate created => exact sound_quiet sound now rfl aims (fun _ _ => nofun) rfl rfl fun _ => nofun
  | updateTemplate template before updated =>
    exact sound_quiet sound now rfl aims (fun _ _ => nofun) rfl rfl fun _ => nofun
  | deleteTemplate deleted => cases kept
  | oidcIssuerUpdate publicIssuerId => exact sound_ended sound now rfl rfl rfl

theorem pushNext_names {at_ next : PushAwait} {publicId : String} (issuers : Issuers s)
    (named : ∀ id publicId, (Process.telling job issuerId mark at_).names = some (id,publicId) → Named s id publicId)
    (goes : pushNext svc s job issuerId at_ = some next)
    (naming : (Process.telling job issuerId mark next).names = some (id,publicId)) : Named s id publicId := by
  cases at_ with
  | getTemplatesByIssuerId =>
    simp only [pushNext] at goes
    split at goes <;> cases goes
    cases job <;> exact named id publicId naming
  | buildIssuer =>
    simp only [pushNext] at goes
    split at goes <;> cases goes
    cases job <;> exact named id publicId naming
  | buildTemplates issuerDetails =>
    simp only [pushNext] at goes
    cases job <;> (split at goes <;> cases goes) <;> exact named id publicId naming
  | getAgentEndPoint templates =>
    simp only [pushNext] at goes
    split at goes <;> cases goes
    cases job <;> exact named id publicId naming
  | getOidcIssuerDetailsById templates =>
    simp only [pushNext] at goes
    split at goes
    · rename_i issuerDetails found
      cases goes
      cases naming
      exact named_of_issued issuers (issued_of_find (IssuerIsolation.getOidcIssuerDetailsById_ok.mp found))
    · cases goes
  | _createOIDCTemplate publicIssuerId templates => cases goes

theorem pushed_some {publicIssuerId : String} {templates : List CredentialTemplate}
    {agent : Keyed AgentIssuer.publicIssuerId}
    (told : pushed svc s answer publicIssuerId templates = some agent) :
    ∃ record configs, s.agent.find publicIssuerId = some record ∧ configurations svc templates = some configs ∧
      ∀ other : AgentIssuer, other ∈ agent.rows ↔ other ∈ s.agent.rows ∧ other.publicIssuerId ≠ publicIssuerId ∨
        other = { record with credentialConfigurationsSupported := configs } := by
  unfold pushed at told
  split at told
  · rename_i record configs found built
    cases told
    obtain ⟨listed,is⟩ := Keyed.find_some.mp found
    refine ⟨record,configs,found,built,fun other => ?_⟩
    rw [Keyed.mem_change]
    refine or_congr_right ⟨?_,fun same => ⟨record,listed,is,same⟩⟩
    rintro ⟨old,there,is',rfl⟩
    rw [s.agent.eq_of_key there listed (is'.trans is.symm)]
  · cases told

theorem touch_aims {touch : Touch} {row : CredentialTemplate} (aims : job.aims issuerId)
    (stays : job.stays issuerId) (own : job.touch mark = some touch)
    (its : touch.before = some row ∨ touch.written = some row) :
    row.issuerId = issuerId := by
  cases job with
  | createTemplate created =>
    cases own
    rcases its with ⟨⟨⟩⟩ | ⟨⟨⟩⟩
    exact aims
  | updateTemplate template before updated =>
    cases own
    rcases its with ⟨⟨⟩⟩ | ⟨⟨⟩⟩
    · exact stays
    · exact aims.2.2.elim (fun same => same) fun same => same.trans stays
  | deleteTemplate deleted =>
    cases own
    rcases its with ⟨⟨⟩⟩ | ⟨⟨⟩⟩
    exact aims
  | oidcIssuerUpdate publicIssuerId => cases own

theorem tellStep_sound (sound : Sound svc s) (now : s.calls[call]? = some (.telling job issuerId mark at_))
    (fine : Fine svc s call answer (.telling job issuerId mark at_)) :
    Sound svc (State.set call (tellStep svc s answer job issuerId mark at_)) := by
  have at_work := List.mem_iff_getElem?.mpr ⟨call,now⟩
  have names := sound.issuers.names _ at_work
  have aims := sound.touches.aims _ at_work
  have deletes : (Process.telling job issuerId mark at_).deletes = none := rfl
  by_cases last : ∃ publicIssuerId templates, at_ = ._createOIDCTemplate publicIssuerId templates
  · obtain ⟨publicIssuerId,templates,rfl⟩ := last
    simp only [Fine,Serves] at fine
    simp only [tellStep]
    split
    · rename_i agent told
      rw [told] at fine
      obtain ⟨rfl,stays⟩ := fine
      obtain ⟨record,configs,found,built,records⟩ := pushed_some told
      exact sound_push sound now (names issuerId publicIssuerId rfl) found built records
        (fun touch own row its => touch_aims aims stays own its) rfl rfl
    · rename_i silent
      rw [silent] at fine
      exact caught_sound sound now fine
  · -- before the last operation the agent is not yet called
    have told : job.isDelete = true → (pushNext svc s job issuerId at_).isSome = true := by
      cases at_ <;> first | exact fine | exact absurd ⟨_,_,rfl⟩ last
    cases goes : pushNext svc s job issuerId at_ with
    | some next =>
      have tell : tellStep svc s answer job issuerId mark at_ = (s,.telling job issuerId mark next) := by
        cases at_ <;> first | exact absurd ⟨_,_,rfl⟩ last | simp only [tellStep,goes]
      rw [tell]
      exact sound_quiet sound now rfl aims (fun id publicId => pushNext_names sound.issuers names goes) rfl rfl
          fun _ => by rintro ⟨⟩
    | none =>
      have tell : tellStep svc s answer job issuerId mark at_ = (s,job.caught issuerId mark) := by
        cases at_ <;> first | exact absurd ⟨_,_,rfl⟩ last | simp only [tellStep,goes]
      rw [tell]
      refine caught_sound sound now ?_
      cases deleting : job.isDelete with
      | false => rfl
      | true =>
        rw [goes] at told
        cases told deleting

theorem compensate_sound (sound : Sound svc s)
    (now : s.calls[call]? = some (.compensating job issuerId mark)) (back : compensate s job = .ok db)
    (intact : job.intact s mark) : Sound svc (State.set call ({ s with db := db },.ended)) := by
  cases job with
  | createTemplate created =>
    refine sound_back sound now rfl (storeRemoval_changes back) (fun row its => ?_) (fun row => nofun) rfl rfl
    rcases its with ⟨⟨⟩⟩ | ⟨⟨⟩⟩
    exact intact
  | updateTemplate template before updated =>
    obtain ⟨rfl,old,new,free⟩ := intact
    refine sound_back sound now rfl (storeUpdate_changes rfl back) (fun row its => ?_) (fun row is => ?_) rfl rfl
    · rcases its with ⟨⟨⟩⟩ | ⟨⟨⟩⟩
      · exact old
      · exact new
    · exact Option.some.inj is ▸ free
  | deleteTemplate deleted => cases back
  | oidcIssuerUpdate publicIssuerId => cases back

/-- The answer that a step gives to a call is fine. -/
def FineStep (svc : Setting) (s : State) (action : Action) : Prop :=
  ∀ call answer process, action = .advance call answer → s.calls[call]? = some process → Fine svc s call answer process
/-- One operation of one call, whatever the others have in flight, keeps what is advertised. -/
theorem step_sound {action : Action} (sound : Sound svc s) (meets : FineStep svc s action)
    (taken : step svc s action = some t) : Sound svc t := by
  cases action with
  | createTemplate id dto issuerId => exact Option.some.inj taken ▸ sound_begin sound rfl trivial rfl rfl
  | updateTemplate templateId dto issuerId => exact Option.some.inj taken ▸ sound_begin sound rfl trivial rfl rfl
  | deleteTemplate templateId issuerId => exact Option.some.inj taken ▸ sound_begin sound rfl trivial rfl rfl
  | oidcIssuerUpdate config userId => exact Option.some.inj taken ▸ sound_begin sound rfl trivial rfl rfl
  | deleteOidcIssuer id => exact Option.some.inj taken ▸ sound_begin sound rfl trivial rfl rfl
  | advance call answer =>
    simp only [step] at taken
    split at taken
    · rename_i process now
      obtain ⟨done,did,rfl⟩ := Option.map_eq_some_iff.mp taken
      have fine := meets call answer process rfl now
      cases process with
      | createTemplate id dto issuerId at_ => exact Option.some.inj did ▸ createStep_sound sound now fine
      | updateTemplate templateId dto issuerId at_ => exact Option.some.inj did ▸ updateStep_sound sound now fine
      | deleteTemplate templateId issuerId at_ => exact Option.some.inj did ▸ deleteStep_sound sound now fine
      | oidcIssuerUpdate config userId at_ => exact Option.some.inj did ▸ issuerUpdateStep_sound sound now
      | deleteOidcIssuer id at_ => exact Option.some.inj did ▸ issuerDeleteStep_sound sound now fine
      | telling job issuerId mark at_ => exact Option.some.inj did ▸ tellStep_sound sound now fine
      | compensating job issuerId mark =>
        obtain ⟨succeeds,intact⟩ := fine
        cases back : compensate s job with
        | ok db =>
          simp only [operate,back] at did
          exact Option.some.inj did ▸ compensate_sound sound now back intact
        | error failure =>
          rw [back] at succeeds
          cases succeeds
      | ended => cases did
    · cases taken

theorem was_quiet {row : CredentialTemplate} (touches : ∀ call, s.touchAt call = none) :
    Was s issuerId row ↔ row ∈ getTemplatesByIssuerId s.db issuerId := by
  rw [was_closed fun call touch held => absurd (held.symm.trans (touches call)) (Option.some_ne_none _),mem_templates]

theorem sound_of_starts (starts : Starts svc s) : Sound svc s := by
  obtain ⟨calls,-,⟨advertised,rowed,-⟩,apart,formats⟩ := starts
  have untouched (call : Nat) : s.touchAt call = none := by rw [State.touchAt,calls]; rfl
  have held {P : Prop} {call : Nat} {touch : Touch} (touched : s.touchAt call = some touch) : P :=
    absurd (touched.symm.trans (untouched call)) (Option.some_ne_none _)
  have idle {P : Prop} {p : Process} (listed : p ∈ s.calls) : P := absurd (calls ▸ listed) List.not_mem_nil
  have keyed {issuer : OidcIssuer} (listed : issuer ∈ s.db.oidc_issuer.rows) :
      ((getTemplatesByIssuerId s.db issuer.id).map configKey).Nodup := by
    obtain ⟨-,-,-,configs,-,-,keys,alone⟩ := advertised issuer listed
    exact keys ▸ alone
  refine ⟨⟨fun _ _ => held,fun _ _ _ _ => held,fun _ _ => held,fun _ _ _ => held,fun _ => idle⟩,⟨?_,formats⟩,
    ⟨?_,fun _ => idle,fun _ => idle,?_⟩,?_⟩
  · intro row listed other there own same
    obtain ⟨issuer,stored,is⟩ := s.db.issuerId_fkey row listed
    rw [List.inj_on_of_nodup_map (keyed stored) (mem_templates.mpr ⟨own.trans is.symm,there⟩)
      (mem_templates.mpr ⟨is.symm,listed⟩) same]
  · rintro id id' publicId ⟨issuer,listed,rfl,is⟩ ⟨other,there,rfl,is'⟩
    rw [List.inj_on_of_nodup_map apart listed there (is.trans is'.symm)]
  · intro record listed
    obtain ⟨issuer,stored,is⟩ := rowed record listed
    exact .inl ⟨issuer.id,issuer,stored,rfl,is⟩
  · rintro id publicId ⟨issuer,stored,rfl,rfl⟩ -
    obtain ⟨record,listed,is,configs,built,same,-⟩ := advertised issuer stored
    refine ⟨record,listed,is,getTemplatesByIssuerId s.db issuer.id,keyed stored,fun row => (was_quiet untouched).symm,
        configs,?_,same⟩
    rw [← configurations_eq (keyed stored)]
    exact built

theorem matches_of_sound (sound : Sound svc s) (quiet : Quiet s) : Matches svc s := by
  have untouched (call : Nat) : s.touchAt call = none := by
    cases there : s.calls[call]? with
    | none => rw [State.touchAt,there]; rfl
    | some p =>
      rw [touchAt_now there,quiet p (List.mem_iff_getElem?.mpr ⟨call,there⟩)]
      rfl
  have advertised (issuer : OidcIssuer) (listed : issuer ∈ s.db.oidc_issuer.rows) : ∃ record ∈ s.agent.rows,
      record.publicIssuerId = issuer.publicIssuerId ∧
        ∃ configs, configurations svc (getTemplatesByIssuerId s.db issuer.id) = some configs ∧
          record.credentialConfigurationsSupported.Perm configs ∧
          JsObject.keys configs = (getTemplatesByIssuerId s.db issuer.id).map configKey ∧
              (JsObject.keys configs).Nodup := by
    obtain ⟨record,there,is,rows,apart,was,built,mapped,same⟩ := sound.told issuer.id _ ⟨issuer,listed,rfl,rfl⟩
      fun p at_work => by rw [quiet p at_work]; rintro ⟨⟩
    have order : rows.Perm (getTemplatesByIssuerId s.db issuer.id) :=
      (List.perm_ext_iff_of_nodup (List.Nodup.of_map _ apart) templates_nodup).mpr fun row =>
      (was row).trans (was_quiet untouched)
    obtain ⟨configs,current,same'⟩ := mapM_perm order mapped
    have keyed : ((getTemplatesByIssuerId s.db issuer.id).map configKey).Nodup := keys_nodup sound.rows
    refine ⟨record,there,is,configs,(configurations_eq keyed).trans current,same.trans same',mapM_key current,?_⟩
    rw [mapM_key current]
    exact keyed
  refine ⟨advertised,fun record listed => ?_,fun template listed id offered => ?_⟩
  · rcases sound.issuers.rowed record listed with ⟨id,issuer,stored,-,is⟩ | ⟨p,at_work,deleting⟩
    · exact ⟨issuer,stored,is⟩
    · rw [quiet p at_work] at deleting
      cases deleting
  · obtain ⟨issuer,stored,is⟩ := s.db.issuerId_fkey template listed
    obtain ⟨record,there,same,configs,-,order,keys,-⟩ := advertised issuer stored
    refine ⟨issuer,stored,is,record,there,same,?_⟩
    rw [supportedId_eq (sound.rows.agrees template listed) offered]
    refine (order.map Prod.fst).mem_iff.mpr ?_
    show configKey template ∈ JsObject.keys configs
    rw [keys]
    exact List.mem_map_of_mem (mem_templates.mpr ⟨is.symm,listed⟩)

variable {seen : List CredentialTemplate}
/-- What a call goes on with is what it has seen, and no template seen has the name that was checked. -/
def Process.holds (seen : List CredentialTemplate) : Process → Prop
  | .createTemplate _ dto _ .createTemplate => ∀ other ∈ seen, other.name ≠ dto.name
  | .updateTemplate _ _ _ .getTemplateById => seen = []
  | .updateTemplate _ _ _ (.getTemplateByNameForIssuer _) => seen = []
  | .updateTemplate _ dto _ (.updateTemplate _) => ∀ other ∈ seen, ∃ name, dto.name = some name ∧ other.name ≠ name
  | .telling _ _ _ (.getAgentEndPoint templates) => templates = seen
  | .telling _ _ _ (.getOidcIssuerDetailsById templates) => templates = seen
  | .telling _ _ _ (._createOIDCTemplate _ templates) => templates = seen
  | _ => True

theorem name_of_met {name : String} {template : CredentialTemplate} (listed : template ∈ met svc s issuerId)
    (apart : getTemplateByNameForIssuer s.db svc.insensitive name issuerId = []) : template.name ≠ name := by
  rintro rfl
  obtain ⟨there,itself⟩ := List.mem_filter.mp listed
  obtain ⟨own,stored⟩ := mem_templates.mp there
  exact List.filter_eq_nil_iff.mp apart template stored (decide_eq_true ⟨own,itself⟩)
theorem updateStep_holds {templateId : String} {dto : UpdateCredentialTemplate} {template : CredentialTemplate}
    (free : nameTaken s.db svc.insensitive templateId dto issuerId = false) :
    (Process.updateTemplate templateId dto issuerId (.updateTemplate template)).holds
      (((Process.updateTemplate templateId dto issuerId (.getTemplateByNameForIssuer template)).reads svc s).getD []) := by
  simp only [Process.reads,nameTaken] at free ⊢
  cases named : dto.name.filter (· ≠ "") with
  | none => exact fun _ => by rintro ⟨⟩
  | some name =>
    rw [named,Option.any_some] at free
    obtain ⟨given,-⟩ := Option.filter_eq_some_iff.mp named
    rw [Option.bind_some]
    split
    · exact fun _ => by rintro ⟨⟩
    · rename_i other
      rw [Bool.not_eq_true] at other
      rw [other,Bool.not_false,Bool.and_true,decide_eq_false_iff_not,not_not] at free
      exact fun template listed => ⟨name,given,name_of_met listed free⟩

theorem pushNext_holds {next : PushAwait} (holds : (Process.telling job issuerId mark at_).holds seen)
    (goes : pushNext svc s job issuerId at_ = some next) : (Process.telling job issuerId mark next).holds
      (((Process.telling job issuerId mark at_).reads svc s).getD seen) := by
  cases at_ with
  | getTemplatesByIssuerId | buildIssuer =>
    simp only [pushNext] at goes
    split at goes <;> cases goes
    trivial
  | buildTemplates issuerDetails =>
    simp only [pushNext] at goes
    cases job <;> (split at goes <;> cases goes) <;> rfl
  | getAgentEndPoint templates | getOidcIssuerDetailsById templates =>
    simp only [pushNext] at goes
    split at goes <;> cases goes
    exact holds
  | _createOIDCTemplate publicIssuerId templates => cases goes
theorem wrote_steps {written : Except Failure Database}
    (holds : (Process.telling job issuerId s.pushes.length at_).holds seen) :
    (wrote s written job issuerId at_).1.calls = s.calls ∧ (wrote s written job issuerId at_).2.holds seen := by
  cases written with
  | ok db => exact ⟨rfl,holds⟩
  | error failure => exact ⟨rfl,trivial⟩
theorem caught_holds : (job.caught issuerId mark).holds seen := by
  cases job <;> trivial

/-- A step leaves the other calls as they are, and its own goes on with what it has read. -/
theorem operate_steps {done : State × Process} (holds : process.holds seen)
    (did : operate svc s answer process = some done) :
    done.1.calls = s.calls ∧ done.2.holds ((process.reads svc s).getD seen) := by
  cases process with
  | createTemplate id dto issuerId at_ =>
    obtain rfl := Option.some.inj did
    cases at_ with
    | getTemplateByNameForIssuer =>
      simp only [createStep]
      split
      · rename_i free
        exact ⟨rfl,fun other listed => name_of_met listed free⟩
      · exact ⟨rfl,trivial⟩
    | createTemplate => exact wrote_steps trivial
  | updateTemplate templateId dto issuerId at_ =>
    obtain rfl := Option.some.inj did
    cases at_ with
    | getTemplateById =>
      simp only [updateStep]
      split
      · exact ⟨rfl,holds⟩
      · exact ⟨rfl,trivial⟩
    | getTemplateByNameForIssuer template =>
      obtain rfl : seen = [] := holds
      simp only [updateStep]
      split
      · exact ⟨rfl,trivial⟩
      · exact ⟨rfl,updateStep_holds (Bool.not_eq_true _ ▸ ‹_›)⟩
    | updateTemplate template =>
      simp only [updateStep]
      split
      · exact wrote_steps trivial
      · exact ⟨rfl,trivial⟩
  | deleteTemplate templateId issuerId at_ =>
    obtain rfl := Option.some.inj did
    cases at_ with
    | getTemplateById =>
      simp only [deleteStep]
      split <;> exact ⟨rfl,trivial⟩
    | deleteTemplate =>
      simp only [deleteStep]
      split
      · exact wrote_steps trivial
      · exact ⟨rfl,trivial⟩
  | oidcIssuerUpdate config userId at_ =>
    obtain rfl := Option.some.inj did
    cases at_ with
    | getOidcIssuerDetailsById =>
      simp only [issuerUpdateStep]
      split <;> exact ⟨rfl,trivial⟩
    | updateOidcIssuerDetails publicIssuerId => exact wrote_steps trivial
  | deleteOidcIssuer id at_ =>
    obtain rfl := Option.some.inj did
    cases at_ with
    | _oidcGetIssuerById publicIssuerId =>
      simp only [issuerDeleteStep]
      split
      · split <;> exact ⟨rfl,trivial⟩
      · exact ⟨rfl,trivial⟩
    | _ =>
      simp only [issuerDeleteStep]
      split <;> exact ⟨rfl,trivial⟩
  | telling job issuerId mark at_ =>
    obtain rfl := Option.some.inj did
    cases at_ with
    | _createOIDCTemplate publicIssuerId templates =>
      simp only [tellStep]
      split
      · exact ⟨rfl,trivial⟩
      · exact ⟨rfl,caught_holds⟩
    | _ =>
      simp only [tellStep]
      split
      · exact ⟨rfl,pushNext_holds holds ‹_›⟩
      · exact ⟨rfl,caught_holds⟩
  | compensating job issuerId mark =>
    simp only [operate] at did
    split at did <;> cases did <;> exact ⟨rfl,trivial⟩
  | ended => cases did

/-- Every call goes on with what was noted of it, and of the calls to come nothing is. -/
structure Recalled (s : State × (Nat → List CredentialTemplate)) : Prop where
  holds : ∀ (call : Nat) (process : Process), s.1.calls[call]? = some process → process.holds (s.2 call)
  unread : ∀ call, s.1.calls.length ≤ call → s.2 call = []
variable {m next : State × (Nat → List CredentialTemplate)}

theorem recalled_begin (recalled : Recalled m) (holds : process.holds []) : Recalled (m.1.begin process,m.2) := by
  constructor
  · intro call p there
    rcases Nat.lt_or_ge call m.1.calls.length with old | new
    · exact recalled.holds call p ((List.getElem?_append_left old).symm.trans there)
    · have last : p ∈ [process] :=
        List.mem_of_getElem? ((List.getElem?_append_right new).symm.trans there)
      rw [List.mem_singleton.mp last]
      show process.holds (m.2 call)
      rw [recalled.unread call new]
      exact holds
  · exact fun call new => recalled.unread call (Nat.le_trans (by simp [State.begin]) new)

theorem recalled_set {done : State × Process} {noted : Nat → List CredentialTemplate} (recalled : Recalled m)
    (inside : call < m.1.calls.length) (calls : done.1.calls = m.1.calls) (goes : done.2.holds (noted call))
    (others : ∀ other, other ≠ call → noted other = m.2 other) : Recalled (State.set call done,noted) := by
  constructor
  · intro other p there
    by_cases same : other = call
    · subst same
      obtain rfl : done.2 = p := Option.some.inj (Eq.trans (Eq.symm (List.getElem?_set_self (calls ▸ inside))) there)
      exact goes
    · have still : m.1.calls[other]? = some p := by
        rw [← there,← calls]
        exact (List.getElem?_set_ne (Ne.symm same)).symm
      have held := recalled.holds other p still
      rwa [← others other same] at held
  · intro other new
    have length : (State.set call done).calls.length = m.1.calls.length := by
      simp [State.set,calls]
    have new' : m.1.calls.length ≤ other := length ▸ new
    exact (others other (Nat.ne_of_gt (Nat.lt_of_lt_of_le inside new'))).trans (recalled.unread other new')

/-- What is noted of a call is what the call has read itself. -/
theorem step_recalled {action : Action} (recalled : Recalled m)
    (taken : noting (step svc) (note svc) m action = some next) :
    Recalled next := by
  obtain ⟨stepped,noted⟩ := noting_cases taken
  obtain ⟨t,seen⟩ := next
  dsimp only at stepped noted
  subst noted
  cases action with
  | createTemplate id dto issuerId => exact Option.some.inj stepped ▸ recalled_begin recalled trivial
  | updateTemplate templateId dto issuerId => exact Option.some.inj stepped ▸ recalled_begin recalled rfl
  | deleteTemplate templateId issuerId => exact Option.some.inj stepped ▸ recalled_begin recalled trivial
  | oidcIssuerUpdate config userId => exact Option.some.inj stepped ▸ recalled_begin recalled trivial
  | deleteOidcIssuer id => exact Option.some.inj stepped ▸ recalled_begin recalled trivial
  | advance call answer =>
    simp only [step] at stepped
    split at stepped
    · rename_i process now
      obtain ⟨done,did,rfl⟩ := Option.map_eq_some_iff.mp stepped
      obtain ⟨calls,goes⟩ := operate_steps (recalled.holds call process now) did
      have inside := (List.getElem?_eq_some_iff.mp now).1
      simp only [note,now,Option.bind_some]
      cases read : process.reads svc m.1 with
      | none =>
        rw [read] at goes
        exact recalled_set recalled inside calls goes fun _ _ => rfl
      | some list =>
        rw [read] at goes
        refine recalled_set recalled inside calls ?_ fun other apart => Function.update_of_ne apart ..
        rw [Option.elim_some,Function.update_self]
        exact goes
    · cases stepped

theorem free_of_alone {row : CredentialTemplate} (alone : Alone s seen row)
    (apart : ∀ other ∈ seen, other.name ≠ row.name) :
    Free s row := by
  intro other there different own same
  by_cases met : other ∈ seen
  · exact apart other met (key_name same)
  · exact alone other there different own met same
/-- What the calls have checked and read makes up for what the condition leaves open. -/
theorem fine_of_meets {action : Action} (recalled : Recalled m) (meets : Meets svc m action) :
    FineStep svc m.1 action := by
  rintro call answer process rfl now
  have serves := meets process now
  have holds := recalled.holds call process now
  cases process with
  | createTemplate id dto issuerId at_ =>
    cases at_ with
    | getTemplateByNameForIssuer => trivial
    | createTemplate =>
      intro stored
      obtain ⟨apart,alone,agrees⟩ := serves stored
      exact ⟨apart,free_of_alone alone holds,agrees⟩
  | updateTemplate templateId dto issuerId at_ =>
    cases at_ with
    | updateTemplate template =>
      intro before found stored
      obtain ⟨apart,alone,agrees⟩ := serves before found stored
      refine ⟨apart,free_of_alone alone fun other listed => ?_,agrees⟩
      obtain ⟨name,given,differs⟩ := holds other listed
      simp only [UpdateCredentialTemplate.applied,given]
      exact differs
    | _ => trivial
  | telling job issuerId mark at_ =>
    cases at_ with
    | _createOIDCTemplate publicIssuerId templates =>
      simp only [Serves] at serves
      simp only [Fine,Serves]
      split
      · rename_i told
        rw [if_pos told] at serves
        exact ⟨holds.trans serves.1,serves.2⟩
      · rename_i silent
        rwa [if_neg silent] at serves
    | _ => exact serves
  | deleteTemplate templateId issuerId at_ => cases at_ <;> exact serves
  | deleteOidcIssuer id at_ => cases at_ <;> exact serves
  | _ => exact serves

/-- In a run of fine steps every state at rest advertises what is stored. -/
theorem advertised_of_meets {first : State} {actions : List Action} (starts : Starts svc first)
    (along : Along (noting (step svc) (note svc)) (Meets svc) (first,fun _ => []) actions) :
    ∀ before rest now, actions = before ++ rest → run (step svc) first before = some now → Quiet now →
        Matches svc now := by
  rintro before rest now rfl reached quiet
  have fresh : Recalled (first,fun _ => []) := by
    refine ⟨fun call process there => ?_,fun _ _ => rfl⟩
    rw [starts.calls] at there
    cases there
  have fine : Along (step svc) (FineStep svc) first (before ++ rest) :=
    along_of_noting (fun _ _ recalled meets => fine_of_meets recalled meets)
      (fun _ _ _ recalled _ taken => step_recalled recalled taken) fresh along
  refine matches_of_sound ?_ quiet
  exact run_keeps_along (fun _ _ _ sound meets taken => step_sound sound meets taken) (sound_of_starts starts)
    (along_first fine) reached

end

def oneIssuer : State where
  db := IssuerTemplates.oneIssuer
  agent := ⟨[⟨"record","our-issuer",[]⟩],by decide⟩
  calls := []
  pushes := []
def ownSetting : Setting where
  orgId := "A"
  insensitive stored given := stored == given
  columns := ⟨fun _ => ⟨none,none,some [],none⟩,fun _ => some ⟨none⟩⟩

theorem oneIssuer_starts : Starts ownSetting oneIssuer where
  calls := rfl
  pushes := rfl
  matches_ :=
    { advertised := fun issuer listed => by
        obtain rfl := List.mem_singleton.mp listed
        exact ⟨_,List.mem_singleton.mpr rfl,rfl,[],rfl,.refl _,rfl,List.nodup_nil⟩
      rowed := fun record listed => by
        obtain rfl := List.mem_singleton.mp listed
        exact ⟨_,List.mem_singleton.mpr rfl,rfl⟩
      offered := fun _ => nofun }
  publicIssuerId := List.nodup_singleton _
  formats := fun _ => nofun

def toEnd (call : Nat) (last : Answer) : List Action := List.replicate 6 (.advance call .ok) ++ [.advance call last]
def licensed : List Action :=
  .createTemplate "license" ⟨"License",none,.X509_P256,"mso_mdoc","\x7b\x7d",false,none,none⟩ "issuer" :: toEnd 0 .ok
theorem license_advertised : (run (step ownSetting) oneIssuer licensed).any (fun now => decide (Quiet now)) = true ∧
    ∀ before rest now, licensed = before ++ rest → run (step ownSetting) oneIssuer before = some now → Quiet now →
      Matches ownSetting now :=
  ⟨by decide +kernel,advertised_of_meets oneIssuer_starts (by decide +kernel)⟩
/-- The template is created and deleted again, and of that the agent is not told. -/
def untold : List Action := licensed ++ .deleteTemplate "license" "issuer" :: toEnd 1 .fails
def afterUntold : State := (run (step ownSetting) oneIssuer untold).getD oneIssuer

theorem deleted_still_advertised :
    Starts ownSetting oneIssuer ∧ run (step ownSetting) oneIssuer untold = some afterUntold ∧
    Quiet afterUntold ∧ ¬Matches ownSetting afterUntold := by
  refine ⟨oneIssuer_starts,rfl,by decide +kernel,fun all => ?_⟩
  have stale : ∀ record ∈ afterUntold.agent.rows, record.credentialConfigurationsSupported ≠ [] := by decide +kernel
  obtain ⟨record,listed,-,configs,built,order,-⟩ := all.advertised _ List.mem_cons_self
  have empty : configs = [] := Option.some.inj (built.symm.trans (by decide +kernel))
  exact stale record listed (List.perm_nil.mp (empty ▸ order))

end Ngotag.TemplateCalls
