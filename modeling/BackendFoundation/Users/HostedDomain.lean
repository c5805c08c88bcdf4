/-
GoogleOauthIdentityService.exchangeAuthorizationCode with a hosted domain, and the sign-ins
that follow it: which accounts they come to. The service compares what stands between the
first two @ of the address; that this is its domain is up to Email.create.
-/

import BackendFoundation.Text.Pieces
import BackendFoundation.Users.Accounts
import BackendFoundation.Users.Normalization

namespace BackendFoundation.Users

open Transition

/-- An empty hostedDomain is no restriction. -/
structure GoogleIdentityOptions where
  clientId : String
  hostedDomain : Option String

/-- The claims of an ID token that the service reads. -/
structure GoogleTokenPayload where
  sub : Option String
  email : Option String
  emailVerified : Option Bool
deriving DecidableEq, Repr

inductive ClientError
  | authentication (error : AppError)
  | other
deriving DecidableEq, Repr

/-- getToken answers with the ID token, verifyIdToken with the payload of the ticket. -/
structure OAuth2Client where
  getToken : String → Except ClientError (Option String)
  verifyIdToken : String → String → Except ClientError (Option GoogleTokenPayload)

def tokenExchangeFailed : ClientError → AppError
  | .authentication error => error
  | .other =>
      { kind := .authentication
        code := "GOOGLE_SSO_TOKEN_EXCHANGE_FAILED"
        message := "Google authorization code exchange failed" }

def missingClaims : AppError :=
  { kind := .authentication
    code := "GOOGLE_SSO_TOKEN_EXCHANGE_FAILED"
    message := "Google identity is missing required claims" }

def hostedDomainMismatch : AppError :=
  { kind := .authentication
    code := "GOOGLE_SSO_HOSTED_DOMAIN_MISMATCH"
    message := "Google account does not belong to the allowed hosted domain" }

def nonEmpty (value : Option String) : Option String :=
  value.filter fun text => decide (text ≠ "")

/-- email.split('@')[1] -/
def domainOf (email : String) : Option String :=
  (email.toList.splitOn '@')[1]?.map String.ofList

def outsideDomain (toLowerCase : String → String) (options : GoogleIdentityOptions)
    (email : String) : Bool :=
  match nonEmpty options.hostedDomain with
  | none => false
  | some hostedDomain => decide ((domainOf email).map toLowerCase ≠ some (toLowerCase hostedDomain))

def readProfile (toLowerCase : String → String) (options : GoogleIdentityOptions)
    (payload : Option GoogleTokenPayload) : Except AppError GoogleIdentityProfile :=
  match payload with
  | none => .error missingClaims
  | some claims =>
      match nonEmpty claims.sub, nonEmpty claims.email with
      | some sub, some email =>
          if outsideDomain toLowerCase options email then .error hostedDomainMismatch
          else
            .ok
              { sub := sub
                email := email
                emailVerified := claims.emailVerified == some true }
      | _, _ => .error missingClaims

def exchangeAuthorizationCode (toLowerCase : String → String) (options : GoogleIdentityOptions)
    (client : OAuth2Client) (code : String) : Except AppError GoogleIdentityProfile :=
  match client.getToken code with
  | .error error => .error (tokenExchangeFailed error)
  | .ok tokens =>
      match nonEmpty tokens with
      | none => .error (tokenExchangeFailed .other)
      | some idToken =>
          match client.verifyIdToken idToken options.clientId with
          | .error error => .error (tokenExchangeFailed error)
          | .ok payload => readProfile toLowerCase options payload

/-- toLowerCase works on both sides of an @ apart, and takes no white space away. -/
structure KeepsAddress (toLowerCase : String → String) : Prop where
  parts : ∀ name domain : String,
    toLowerCase (name ++ "@" ++ domain) = toLowerCase name ++ "@" ++ toLowerCase domain
  spaces : ∀ value : String, (∃ character ∈ value.toList, isSpace character = true) →
    ∃ character ∈ (toLowerCase value).toList, isSpace character = true

/-- The address ends in the hosted domain. -/
def Hosted (toLowerCase : String → String) (hostedDomain email : String) : Prop :=
  ∃ name, email = name ++ "@" ++ toLowerCase hostedDomain

section Strip

variable {Item : Type} {drop : Item → Bool} {item : Item}

theorem dropWhile_append_cons (kept : drop item = false) (front back : List Item) :
    (front ++ item :: back).dropWhile drop = front.dropWhile drop ++ item :: back := by
  induction front with
  | nil =>
      rw [List.nil_append, List.dropWhile_cons, kept]
      rfl
  | cons first front ih =>
      rw [List.cons_append, List.dropWhile_cons, List.dropWhile_cons]
      split
      · exact ih
      · rfl

theorem rdropWhile_append_cons (kept : drop item = false) (front back : List Item) :
    (front ++ item :: back).rdropWhile drop = front ++ item :: back.rdropWhile drop := by
  unfold List.rdropWhile
  rw [List.reverse_append, List.reverse_cons, List.append_assoc, List.singleton_append,
    dropWhile_append_cons kept, List.reverse_append, List.reverse_cons, List.reverse_reverse,
    List.append_assoc, List.singleton_append]

/-- What is not dropped keeps its neighbours apart. -/
theorem strip_append_cons (kept : drop item = false) (front back : List Item) :
    strip drop (front ++ item :: back) =
      front.dropWhile drop ++ item :: back.rdropWhile drop := by
  unfold strip
  rw [dropWhile_append_cons kept, rdropWhile_append_cons kept]

end Strip

theorem ofList_at (name domain : List Char) :
    String.ofList (name ++ '@' :: domain) = String.ofList name ++ "@" ++ String.ofList domain := by
  apply String.toList_injective
  have at_ : "@".toList = ['@'] := rfl
  simp only [String.toList_append, String.toList_ofList, at_, List.append_assoc,
    List.singleton_append]

theorem isSpace_at : isSpace '@' = false := by decide

/-- Trimming an address trims its outer parts. -/
theorem trim_address {value : String} {name domain : List Char}
    (parts : value.toList = name ++ '@' :: domain) :
    trim value = String.ofList (name.dropWhile isSpace) ++ "@" ++
      String.ofList (domain.rdropWhile isSpace) := by
  rw [← ofList_at, ← strip_append_cons isSpace_at, ← parts, ← toList_trim, String.ofList_toList]

/-- A well formed address has one @. -/
theorem count_of_isEmail {value : String} (wellFormed : isEmail value = true) :
    value.toList.count '@' = 1 := by
  obtain ⟨first, pieces, split, whole, outside⟩ := Text.exists_splitOn '@' value.toList
  simp only [isEmail, split, Bool.and_eq_true] at wellFormed
  cases pieces with
  | nil => cases wellFormed.2
  | cons second pieces =>
      cases pieces with
      | cons third pieces => cases wellFormed.2
      | nil =>
          have left := List.count_eq_zero.mpr (outside first List.mem_cons_self)
          have right := List.count_eq_zero.mpr
            (outside second (List.mem_cons_of_mem _ List.mem_cons_self))
          rw [whole, Text.joined, Text.joined, List.count_append, List.count_cons_self, left,
            right]

section Address

variable {toLowerCase : String → String}

/-- Where the service reads the hosted domain, a well formed address has its domain. -/
theorem hosted_of_create (keeps : KeepsAddress toLowerCase) {value domain hostedDomain : String}
    {email : Email} (created : Email.create toLowerCase value = .ok email)
    (read : domainOf value = some domain) (same : toLowerCase domain = toLowerCase hostedDomain)
    (plain : ∀ character ∈ (toLowerCase hostedDomain).toList, isSpace character = false) :
    Hosted toLowerCase hostedDomain email.value := by
  obtain ⟨first, pieces, split, whole, outside⟩ := Text.exists_splitOn '@' value.toList
  cases pieces with
  | nil =>
      rw [domainOf, split] at read
      cases read
  | cons second pieces =>
      rw [domainOf, split] at read
      cases read
      cases pieces with
      | nil =>
          have kept : second.rdropWhile isSpace = second := by
            rw [List.rdropWhile_eq_self_iff]
            intro nonempty dropped
            obtain ⟨character, member, space⟩ := keeps.spaces (String.ofList second)
              ⟨second.getLast nonempty, by
                rw [String.toList_ofList]
                exact List.getLast_mem nonempty, dropped⟩
            rw [same] at member
            rw [plain character member] at space
            cases space
          have address := trim_address whole
          rw [Text.joined, kept] at address
          refine ⟨toLowerCase (String.ofList (first.dropWhile isSpace)), ?_⟩
          rw [Email.value_of_create created, address, keeps.parts, same]
      | cons third pieces =>
          -- Email.create has the whole address, so a second @ is not overlooked there.
          have address := trim_address whole
          rw [Text.joined, rdropWhile_append_cons isSpace_at, ofList_at] at address
          have one := count_of_isEmail email.wellFormed
          have at_ : "@".toList.count '@' = 1 := rfl
          rw [Email.value_of_create created, address, keeps.parts, keeps.parts] at one
          simp only [String.toList_append, List.count_append, at_] at one
          omega

/-- A profile that the service has returned is of the hosted domain. -/
theorem domainOf_of_exchange {options : GoogleIdentityOptions} {client : OAuth2Client}
    {code hostedDomain : String} {profile : GoogleIdentityProfile}
    (restricted : nonEmpty options.hostedDomain = some hostedDomain)
    (exchanged : exchangeAuthorizationCode toLowerCase options client code = .ok profile) :
    (domainOf profile.email).map toLowerCase = some (toLowerCase hostedDomain) := by
  unfold exchangeAuthorizationCode at exchanged
  split at exchanged
  · cases exchanged
  · split at exchanged
    · cases exchanged
    · split at exchanged
      · cases exchanged
      · unfold readProfile at exchanged
        split at exchanged
        · cases exchanged
        · split at exchanged
          · split at exchanged
            · cases exchanged
            · rename_i inside
              cases exchanged
              simpa only [outsideDomain, restricted, decide_eq_true_eq, ne_eq,
                Decidable.not_not] using inside
          · cases exchanged

end Address

/-- A normal address of the hosted domain. -/
structure Member (toLowerCase : String → String) (hostedDomain : String) (email : Email) :
    Prop where
  hosted : Hosted toLowerCase hostedDomain email.value
  normal : Email.create toLowerCase email.value = .ok email

/-- Only accounts of the hosted domain are linked to a Google account. -/
def UserTable.LinkedInside (toLowerCase : String → String) (hostedDomain : String)
    (users : UserTable) : Prop :=
  ∀ id row, users.findById id = some row → row.googleSub ≠ none →
    ∃ email, Member toLowerCase hostedDomain email ∧ row.email = email.value

def Operation.isGuest : Operation → Bool
  | completeGoogleSignIn _ => true
  | _ => false

/-- What a call carries towards its write and its session. -/
def Operation.Inside (operation : Operation) (toLowerCase : String → String)
    (hostedDomain : String) : Phase → Prop
  | .consuming | .finding _ | .revoking _ => operation.isGuest = false
  | .hashing user => operation.isGuest = false ∧
      (user.googleSub ≠ none → Member toLowerCase hostedDomain user.email)
  | .findingBySub profile => operation = .completeGoogleSignIn profile
  | .findingByEmail _ email | .creating _ email => Member toLowerCase hostedDomain email
  | .updating _ updated =>
      (operation.isGuest = true → updated.googleSub ≠ none) ∧
        (updated.googleSub ≠ none → Member toLowerCase hostedDomain updated.email)
  | .issuing user => operation.isGuest = true → Member toLowerCase hostedDomain user.email
  | _ => True

/-- Google sign-ins come from the identity service, which has a hosted domain. -/
structure Setup.Restricted {Call : Type} (setup : Setup Call) (options : GoogleIdentityOptions)
    (client : OAuth2Client) (hostedDomain : String) : Prop where
  domain : nonEmpty options.hostedDomain = some hostedDomain
  plain : ∀ character ∈ (setup.toLowerCase hostedDomain).toList, isSpace character = false
  keeps : KeepsAddress setup.toLowerCase
  normalizes : Normalizes setup.toLowerCase
  exchanged : ∀ call profile, setup.operation call = .completeGoogleSignIn profile →
    ∃ code, exchangeAuthorizationCode setup.toLowerCase options client code = .ok profile

theorem toDomain_email {toLowerCase : String → String} {row : UserRow} {user : User}
    {email : Email} (restored : toDomain toLowerCase row = .ok user)
    (created : Email.create toLowerCase row.email = .ok email) : user.email = email := by
  unfold toDomain at restored
  rw [created] at restored
  cases restored
  rfl

theorem toDomain_googleSub {toLowerCase : String → String} {row : UserRow} {user : User}
    (restored : toDomain toLowerCase row = .ok user) : user.googleSub = row.googleSub := by
  unfold toDomain at restored
  cases created : Email.create toLowerCase row.email with
  | error error =>
      rw [created] at restored
      cases restored
  | ok email =>
      rw [created] at restored
      cases restored
      rfl

section Runs

variable {Call : Type} {setup : Setup Call} {options : GoogleIdentityOptions}
  {client : OAuth2Client} {hostedDomain : String} {users after : UserTable}

/-- The entity of a linked row is a member, like the row. -/
theorem UserTable.LinkedInside.member {row : UserRow} {user : User}
    (inside : users.LinkedInside setup.toLowerCase hostedDomain) (stored : row ∈ users.table.rows)
    (restored : toDomain setup.toLowerCase row = .ok user) (linked : row.googleSub ≠ none) :
    Member setup.toLowerCase hostedDomain user.email := by
  obtain ⟨email, member, same⟩ := inside row.id row (findById_of_mem stored) linked
  rw [toDomain_email restored (same ▸ member.normal)]
  exact member

theorem UserTable.LinkedInside.update {data : UserRow}
    (inside : users.LinkedInside setup.toLowerCase hostedDomain)
    (updated : users.update data = .ok after)
    (member : data.googleSub ≠ none →
      ∃ email, Member setup.toLowerCase hostedDomain email ∧ data.email = email.value) :
    after.LinkedInside setup.toLowerCase hostedDomain := by
  intro id row found linked
  rw [findById_update updated] at found
  obtain ⟨earlier, stored, rfl⟩ := Option.map_eq_some_iff.mp found
  split at linked
  · rename_i same
    rw [if_pos same]
    exact member linked
  · rename_i other
    rw [if_neg other]
    exact inside id earlier stored linked

theorem UserTable.LinkedInside.increment {userId : String} {version : Nat}
    (inside : users.LinkedInside setup.toLowerCase hostedDomain)
    (incremented : users.incrementAuthVersion userId = .ok (after, version)) :
    after.LinkedInside setup.toLowerCase hostedDomain := by
  intro id row found linked
  rw [findById_increment incremented] at found
  obtain ⟨earlier, stored, rfl⟩ := Option.map_eq_some_iff.mp found
  split at linked
  · rename_i same
    rw [if_pos same]
    exact inside id earlier stored linked
  · rename_i other
    rw [if_neg other]
    exact inside id earlier stored linked

theorem UserTable.LinkedInside.insert {data : UserRow}
    (inside : users.LinkedInside setup.toLowerCase hostedDomain)
    (inserted : users.insert data = .ok after)
    (member : data.googleSub ≠ none →
      ∃ email, Member setup.toLowerCase hostedDomain email ∧ data.email = email.value) :
    after.LinkedInside setup.toLowerCase hostedDomain := by
  intro id row found linked
  rw [(findById_insert inserted id).2] at found
  split at found
  · cases found
    exact member linked
  · exact inside id row found linked

theorem Setup.Restricted.replies {operation : Operation} {phase next : Phase}
    (restricted : setup.Restricted options client hostedDomain)
    (asked : ∀ profile, operation = .completeGoogleSignIn profile →
      ∃ code, exchangeAuthorizationCode setup.toLowerCase options client code = .ok profile)
    (inside : users.LinkedInside setup.toLowerCase hostedDomain)
    (known : operation.Inside setup.toLowerCase hostedDomain phase)
    (replied : setup.Replies operation users phase next) :
    operation.Inside setup.toLowerCase hostedDomain next := by
  cases replied with
  | fails => trivial
  | @reads _ row user found restored =>
      refine ⟨known, fun linked => ?_⟩
      rw [toDomain_googleSub restored] at linked
      exact inside.member (UserTable.mem_of_findById found) restored linked
  | @signsIn profile row user found restored =>
      intro _
      have stored := List.mem_of_find?_eq_some found
      have selected := List.find?_some found
      apply inside.member stored restored
      rw [beq_iff_eq.mp selected]
      exact Option.some_ne_none _
  | @asksByEmail profile email _ _ normalized =>
      obtain ⟨code, exchanged⟩ := asked profile known
      obtain ⟨domain, read, same⟩ := Option.map_eq_some_iff.mp
        (domainOf_of_exchange restricted.domain exchanged)
      exact
        { hosted := hosted_of_create restricted.keeps normalized read same restricted.plain
          normal := Email.create_value restricted.normalizes normalized }
  | @links profile email row user found restored =>
      have address := (UserTable.mem_of_findByEmail found).2
      have member : Member setup.toLowerCase hostedDomain email := known
      have same := toDomain_email restored (address ▸ member.normal)
      refine ⟨fun _ => Option.some_ne_none _, fun _ => ?_⟩
      change Member _ _ user.email
      rw [same]
      exact member
  | creates => exact known

/-- What one statement of a call keeps. -/
theorem Setup.Restricted.executes {operation : Operation} {phase next : Phase}
    (restricted : setup.Restricted options client hostedDomain)
    (asked : ∀ profile, operation = .completeGoogleSignIn profile →
      ∃ code, exchangeAuthorizationCode setup.toLowerCase options client code = .ok profile)
    (inside : users.LinkedInside setup.toLowerCase hostedDomain)
    (known : operation.Inside setup.toLowerCase hostedDomain phase)
    (executes : setup.Executes operation users phase after next) :
    after.LinkedInside setup.toLowerCase hostedDomain ∧
      operation.Inside setup.toLowerCase hostedDomain next := by
  cases executes with
  | starts =>
      refine ⟨inside, ?_⟩
      cases operation with
      | changePassword | resetPassword | completeGoogleSignIn => rfl
      | incrementAuthVersion => trivial
  | fails => exact ⟨inside, trivial⟩
  | consumes => exact ⟨inside, known⟩
  | replies replied => exact ⟨inside, restricted.replies asked inside known replied⟩
  | hashes user passwordHash =>
      obtain ⟨resident, member⟩ := known
      refine ⟨inside, fun guest => ?_, member⟩
      rw [resident] at guest
      cases guest
  | @updates read updated _ committed =>
      obtain ⟨guest, member⟩ := known
      refine ⟨inside.update committed fun linked => ⟨updated.email, member linked, rfl⟩, ?_⟩
      cases operation with
      | completeGoogleSignIn => exact fun _ => member (guest rfl)
      | changePassword | resetPassword | incrementAuthVersion => rfl
  | increments committed => exact ⟨inside.increment committed, trivial⟩
  | creates inserted => exact ⟨inside.insert inserted fun _ => ⟨_, known, rfl⟩, fun _ => known⟩
  | revokes =>
      refine ⟨inside, fun guest => ?_⟩
      have resident : operation.isGuest = false := known
      rw [resident] at guest
      cases guest
  | ends => exact ⟨inside, trivial⟩

variable [DecidableEq Call] {start finish : State Call} {statements : List (Statement Call)}

/-- The e-mail of an account is not changed: the application has no statement that does. -/
def KeepsEmails (_ : State Call) (statement : Statement Call) : Prop :=
  ∀ userId email, statement ≠ .setEmail userId email

structure Setup.Inside (setup : Setup Call) (hostedDomain : String) (state : State Call) :
    Prop where
  linked : state.users.LinkedInside setup.toLowerCase hostedDomain
  calls : ∀ call, (setup.operation call).Inside setup.toLowerCase hostedDomain
    (state.calls call)

theorem Setup.Restricted.step {state following : State Call} {action : Action Call}
    (restricted : setup.Restricted options client hostedDomain)
    (inside : setup.Inside hostedDomain state)
    (stepped : setup.step state action = some following) :
    setup.Inside hostedDomain following := by
  obtain ⟨phase, calls, executes⟩ := Setup.executes stepped
  obtain ⟨linked, next⟩ := restricted.executes (restricted.exchanged action.call) inside.linked
    (inside.calls action.call) executes
  refine ⟨linked, fun call => ?_⟩
  rw [calls]
  by_cases same : call = action.call
  · rw [same, Function.update_self]
    exact next
  · rw [Function.update_of_ne same]
    exact inside.calls call

theorem Setup.Restricted.execute {state following : State Call} {statement : Statement Call}
    (restricted : setup.Restricted options client hostedDomain)
    (inside : setup.Inside hostedDomain state) (keeps : KeepsEmails state statement)
    (stepped : setup.execute state statement = some following) :
    setup.Inside hostedDomain following := by
  cases statement with
  | of action => exact restricted.step inside stepped
  | register userId email passwordHash =>
      simp only [Setup.execute] at stepped
      split at stepped
      · cases stepped
        exact inside
      · rename_i inserted
        cases stepped
        refine ⟨inside.linked.insert inserted fun linked => ?_, inside.calls⟩
        exact absurd rfl linked
  | setRoles userId roles =>
      cases stepped
      refine ⟨?_, inside.calls⟩
      rcases state.users.amend_cases userId fun row => { row with roles := roles } with
        same | ⟨row, found, updated⟩
      · rw [same]
        exact inside.linked
      · exact inside.linked.update updated fun linked => inside.linked userId row found linked
  | setEmail userId email => exact absurd rfl (keeps userId email)

/-- With a hosted domain only accounts of that domain are ever linked to Google, and a Google
sign-in issues a session to no other account. -/
theorem google_stays_inside (restricted : setup.Restricted options client hostedDomain)
    (initial : start.initial)
    (before : start.users.LinkedInside setup.toLowerCase hostedDomain)
    (run : setup.accounts.Run KeepsEmails start statements finish) :
    (∀ id row, finish.users.findById id = some row → row.googleSub ≠ none →
      Hosted setup.toLowerCase hostedDomain row.email) ∧
    ∀ call profile user, setup.operation call = .completeGoogleSignIn profile →
      finish.calls call = .issuing user →
      Hosted setup.toLowerCase hostedDomain user.email.value := by
  have ready : setup.Inside hostedDomain start := by
    refine ⟨before, fun call => ?_⟩
    rw [initial.1]
    trivial
  have inside : setup.Inside hostedDomain finish := by
    apply run.preserves _ ready
    intro state statement following inside keeps stepped
    exact restricted.execute inside keeps stepped
  constructor
  · intro id row found linked
    obtain ⟨email, member, same⟩ := inside.linked id row found linked
    rw [same]
    exact member.hosted
  · intro call profile user guest issuing
    have known := inside.calls call
    rw [issuing, guest] at known
    exact (known rfl).hosted

end Runs

section Sample

theorem toList_toLower (value : String) :
    value.toLower.toList = value.toList.map Char.toLower :=
  String.toList_map

theorem keepsAddress_toLower : KeepsAddress String.toLower where
  parts := by
    intro name domain
    have at_ : "@".toList.map Char.toLower = "@".toList := rfl
    apply String.toList_injective
    simp only [toList_toLower, String.toList_append, List.map_append, at_]
  spaces := by
    intro value found
    obtain ⟨character, member, space⟩ := found
    refine ⟨character.toLower, ?_, (isSpace_toLower character).trans space⟩
    rw [toList_toLower]
    exact List.mem_map_of_mem member

def corpOptions : GoogleIdentityOptions :=
  { clientId := "client"
    hostedDomain := some "Corp.example" }

def corpClient : OAuth2Client :=
  { getToken := fun _ => .ok (some "token")
    verifyIdToken := fun _ _ =>
      .ok (some
        { sub := some "g1"
          email := some "Ann@CORP.example"
          emailVerified := some true }) }

def annProfile : GoogleIdentityProfile :=
  { sub := "g1"
    email := "Ann@CORP.example"
    emailVerified := true }

def annSignsIn : Setup Unit :=
  { operation := fun _ => .completeGoogleSignIn annProfile
    compare := fun _ _ => false
    toLowerCase := String.toLower }

theorem domainOf_ann : domainOf "Ann@CORP.example" = some "CORP.example" := by
  have split : "Ann@CORP.example".toList.splitOn '@' = ["Ann".toList, "CORP.example".toList] := by
    decide +kernel
  rw [domainOf, split]
  rfl

theorem toLower_hosted : String.toLower "Corp.example" = "corp.example" := by decide +kernel

theorem ann_inside : outsideDomain String.toLower corpOptions "Ann@CORP.example" = false := by
  have restricted : nonEmpty corpOptions.hostedDomain = some "Corp.example" := rfl
  have claimed : String.toLower "CORP.example" = "corp.example" := by decide +kernel
  simp only [outsideDomain, restricted, domainOf_ann, Option.map_some, claimed, toLower_hosted,
    ne_eq, not_true_eq_false, decide_false]

theorem corpClient_exchanged :
    exchangeAuthorizationCode String.toLower corpOptions corpClient "code" = .ok annProfile := by
  have token : nonEmpty (some "token") = some "token" := rfl
  have sub : nonEmpty (some "g1") = some "g1" := rfl
  have email : nonEmpty (some "Ann@CORP.example") = some "Ann@CORP.example" := rfl
  simp only [exchangeAuthorizationCode, corpClient, token, readProfile, sub, email,
    ann_inside, Bool.false_eq_true, if_false, annProfile, beq_self_eq_true]

theorem annSignsIn_restricted : annSignsIn.Restricted corpOptions corpClient "Corp.example" where
  domain := rfl
  plain := by
    intro character member
    have lower : annSignsIn.toLowerCase "Corp.example" = "corp.example" := toLower_hosted
    rw [lower] at member
    have plain : "corp.example".toList.all (fun character => !isSpace character) = true := rfl
    simpa only [Bool.not_eq_true'] using List.all_eq_true.mp plain character member
  keeps := keepsAddress_toLower
  normalizes := normalizes_toLower
  exchanged := by
    intro _ profile asked
    rw [← Operation.completeGoogleSignIn.inj asked]
    exact ⟨"code", corpClient_exchanged⟩

def annSignsInStart : State Unit :=
  { users := .single passwordAccount
    calls := fun _ => .ready
    bumps := fun _ => 0 }

def Statement.keepsEmails : Statement Unit → Bool
  | .setEmail _ _ => false
  | _ => true

theorem annSignsIn_stays_inside : ∃ finish row user,
    annSignsIn.accounts.Run KeepsEmails annSignsInStart
        [.of (.start ()), .of (.query ()), .of (.query ()), .of (.create () "u2")] finish ∧
      finish.users.findById "u2" = some row ∧ row.googleSub = some "g1" ∧
        Hosted String.toLower "Corp.example" row.email ∧ finish.calls () = .issuing user ∧
          Hosted String.toLower "Corp.example" user.email.value := by
  let email : Email :=
    { value := "ann@corp.example"
      wellFormed := by decide +kernel }
  let ann : User := User.createFromGoogle "u2" email "g1" ["user"]
  have executed :
      (annSignsIn.accounts.execute (fun _ statement => statement.keepsEmails) annSignsInStart
        [.of (.start ()), .of (.query ()), .of (.query ()), .of (.create () "u2")]).map
          (fun finish => (finish.users.findById "u2", finish.calls ())) =
        some (some (toPersistence ann), .issuing ann) := by decide +kernel
  obtain ⟨finish, run, facts⟩ := Option.map_eq_some_iff.mp executed
  obtain ⟨stored, issuing⟩ := Prod.mk.inj facts
  have before : annSignsInStart.users.LinkedInside String.toLower "Corp.example" := by
    intro id row found linked
    have only := List.mem_singleton.mp (UserTable.mem_of_findById found)
    rw [only] at linked
    exact absurd rfl linked
  have run' : annSignsIn.accounts.Run KeepsEmails annSignsInStart
      [.of (.start ()), .of (.query ()), .of (.query ()), .of (.create () "u2")] finish := by
    refine .of_execute (fun _ statement keeps userId email changes => ?_) run
    rw [changes] at keeps
    cases keeps
  obtain ⟨accounts, sessions⟩ := google_stays_inside annSignsIn_restricted ⟨rfl, rfl⟩ before run'
  exact ⟨finish, toPersistence ann, ann, run', stored, rfl,
    accounts "u2" _ stored (Option.some_ne_none _), issuing, sessions () _ ann rfl issuing⟩

end Sample

end BackendFoundation.Users
