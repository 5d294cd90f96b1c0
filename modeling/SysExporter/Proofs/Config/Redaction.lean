import SysExporter.Config.Dsn
import SysExporter.Proofs.Config.Expansion
import SysExporter.Proofs.Url.Credentials

namespace SysExporter.Config

open Text Url

namespace Dsn

theorem isFile_scheme : isFile scheme = false := by decide

theorem isWeb_scheme : isWeb scheme = false := by decide

theorem escape_mask : escape userinfoSet mask = mask := by decide

-- An accepted address takes any password: it has a host and is not of a file.
theorem setPassword?_mask (dsn : Dsn) :
    dsn.address.setPassword? mask = some (dsn.address.withPassword mask) := by
  have hhost : dsn.who.host.isEmpty = false := by
    cases hempty : dsn.who.host with
    | nil => exact absurd hempty dsn.host_ne
    | cons c rest => rfl
  have hfile : isFile dsn.address.scheme = false := dsn.scheme_eq ▸ isFile_scheme
  have htaken : (dsn.who.host.isEmpty || isFile dsn.address.scheme) = false := by
    rw [hhost, hfile]
    rfl
  simp only [Address.setPassword?, dsn.authority_eq, htaken, Address.withPassword, escape_mask]
  rfl

theorem redactedAddress_of_none {dsn : Dsn} (h : dsn.who.password = none) :
    dsn.redactedAddress = dsn.address := by
  rw [redactedAddress, h]
  rfl

theorem redactedAddress_of_some {dsn : Dsn} {password : List Char}
    (h : dsn.who.password = some password) :
    dsn.redactedAddress = dsn.address.withPassword mask := by
  rw [redactedAddress, h, setPassword?_mask]
  rfl

theorem ofAddress_of_scheme_ne {a : Address} (h : a.scheme ≠ scheme) :
    ofAddress a = .error (.wrongScheme (.ofList a.scheme)) := by
  rw [ofAddress, dif_neg h]

theorem ofAddress_of_no_host {a : Address} (hscheme : a.scheme = scheme)
    (h : ∀ who, a.authority = some who → who.host = []) : ofAddress a = .error .noHost := by
  rw [ofAddress, dif_pos hscheme]
  split
  · rfl
  · rename_i who hwho
    rw [dif_pos (h who hwho)]

theorem ofAddress_of_host {a : Address} {who : Authority} (hscheme : a.scheme = scheme)
    (hwho : a.authority = some who) (hhost : who.host ≠ []) :
    ∃ dsn, dsn.address = a ∧ ofAddress a = .ok dsn := by
  rw [ofAddress, dif_pos hscheme]
  split
  · rename_i hnone
    cases hnone.symm.trans hwho
  · rename_i other hother
    cases hwho.symm.trans hother
    rw [dif_neg hhost]
    exact ⟨_, rfl, rfl⟩

theorem redactedAddress_of_withPassword {dsn : Dsn} {a : Address} {password : List Char}
    (h : dsn.address = a.withPassword password) : dsn.redactedAddress = a.withPassword mask := by
  have hauthority := dsn.authority_eq
  rw [h] at hauthority
  obtain ⟨who, -, hwho⟩ := Option.map_eq_some_iff.mp hauthority
  have hpassword : dsn.who.password = some password := hwho ▸ rfl
  rw [redactedAddress_of_some hpassword, h, Address.withPassword_withPassword]

end Dsn

-- What may be seen of two readings of an address: the fault, or what is shown
-- of the address.
def SameOutside : Except Rejection Dsn → Except Rejection Dsn → Prop
  | .error fault, .error other => fault = other
  | .ok dsn, .ok other =>
    dsn.redacted = other.redacted ∧ toString dsn = toString other ∧ dsn.debug = other.debug
  | _, _ => False

theorem sameOutside_of_redactedAddress_eq {dsn other : Dsn}
    (h : dsn.redactedAddress = other.redactedAddress) : SameOutside (.ok dsn) (.ok other) := by
  have hredacted : dsn.redacted = other.redacted := congrArg Address.toText h
  exact ⟨hredacted, hredacted, congrArg (fun text => "Dsn(" ++ quote text ++ ")") hredacted⟩

-- Whether an address is accepted does not depend on its password.
theorem sameOutside_ofAddress (a : Address) (password other : List Char) :
    SameOutside ((Dsn.ofAddress (a.withPassword password)).mapError .violation)
      ((Dsn.ofAddress (a.withPassword other)).mapError .violation) := by
  by_cases hscheme : a.scheme = Dsn.scheme
  · have hscheme (p : List Char) : (a.withPassword p).scheme = Dsn.scheme := hscheme
    by_cases hhost : ∃ who, a.authority = some who ∧ who.host ≠ []
    · obtain ⟨who, hwho, hhost⟩ := hhost
      have hwith (p : List Char) : (a.withPassword p).authority = some (who.withPassword p) := by
        rw [Address.withPassword, hwho]
        rfl
      obtain ⟨dsn, haddress, hok⟩ :=
        Dsn.ofAddress_of_host (hscheme password) (hwith password) hhost
      obtain ⟨dsn', haddress', hok'⟩ := Dsn.ofAddress_of_host (hscheme other) (hwith other) hhost
      rw [hok, hok']
      refine sameOutside_of_redactedAddress_eq ?_
      rw [Dsn.redactedAddress_of_withPassword haddress,
        Dsn.redactedAddress_of_withPassword haddress']
    · have hnone (p : List Char) : Dsn.ofAddress (a.withPassword p) = .error .noHost := by
        refine Dsn.ofAddress_of_no_host (hscheme p) fun found hfound => ?_
        obtain ⟨who, hwho, rfl⟩ := Option.map_eq_some_iff.mp hfound
        exact Decidable.not_not.mp fun hne => hhost ⟨who, hwho, hne⟩
      rw [hnone, hnone]
      rfl
  · have hwrong (p : List Char) :
        Dsn.ofAddress (a.withPassword p) = .error (.wrongScheme (.ofList a.scheme)) :=
      Dsn.ofAddress_of_scheme_ne hscheme
    rw [hwrong, hwrong]
    rfl

-- How an address of the scheme begins.
def opening : List Char := ['m', 'y', 's', 'q', 'l', ':', '/', '/']

-- Blanks and line ends go from around the password, which stays as it is.
theorem strip_trim_password {secret : List Char} (user rest : List Char)
    (hsecret : ∀ c ∈ secret, isKept c = true) :
    strip (trim (opening ++ (user ++ ':' :: secret ++ '@' :: rest))) =
      opening ++ (user.filter isKept ++ ':' :: secret ++ '@' :: stripEnd (trimEnd rest)) := by
  obtain ⟨first, others, hopening⟩ : ∃ first others, opening = first :: others ∧
      isBlank first = false ∧ isEdge first = false := ⟨_, _, rfl, by decide, by decide⟩
  have hkept : opening.filter isKept = opening := by decide
  have hcolon : isKept ':' = true := by decide
  have htext (rest : List Char) : opening ++ (user ++ ':' :: secret ++ '@' :: rest) =
      first :: ((others ++ user ++ ':' :: secret) ++ '@' :: rest) := by
    rw [hopening.1]
    simp
  rw [htext, trim_append_cons hopening.2.1 (by decide),
    strip_append_cons hopening.2.2 (by decide)]
  have hbefore :
      first :: (others ++ user ++ ':' :: secret) = opening ++ (user ++ ':' :: secret) := by
    rw [hopening.1]
    simp
  rw [hbefore, List.filter_append, hkept, List.filter_append, List.filter_cons_of_pos hcolon,
    List.filter_eq_self.mpr hsecret, List.append_assoc]

theorem parse_opening {text behind : List Char} (h : strip text = opening ++ behind) :
    Address.parse text = parseWithAuthority Dsn.scheme behind := by
  have hsplit : splitScheme (opening ++ behind) = some (Dsn.scheme, '/' :: '/' :: behind) := rfl
  simp only [Address.parse, h, hsplit, Dsn.isFile_scheme, Dsn.isWeb_scheme]
  rfl

-- A password that stands for itself between the colon and the at sign.
structure Plain (secret : List Char) : Prop where
  ne_nil : secret ≠ []
  inside : ∀ c ∈ secret, endsAuthority false c = false
  kept : ∀ c ∈ secret, isKept c = true

theorem parse_password {user : List Char} (hcolon : ':' ∉ user)
    (huser : ∀ c ∈ user, endsAuthority false c = false) (rest : List Char) :
    ∃ (tail : List Char) (outcome : Except Fault Address), ∀ secret, Plain secret →
      Address.parse (trim (opening ++ (user ++ ':' :: secret ++ '@' :: rest))) =
        outcome.map (·.withPassword (escape userinfoSet (secret ++ tail))) := by
  have hcolon' : ':' ∉ user.filter isKept := fun hmem => hcolon (List.mem_filter.mp hmem).1
  have huser' : ∀ c ∈ user.filter isKept, endsAuthority false c = false :=
    fun c hc => huser c (List.mem_filter.mp hc).1
  obtain ⟨tail, outcome, hread⟩ := parseWithAuthority_password Dsn.isWeb_scheme hcolon' huser'
    (stripEnd (trimEnd rest))
  refine ⟨tail, outcome, fun secret hsecret => ?_⟩
  rw [parse_opening (strip_trim_password user rest hsecret.kept)]
  exact hread secret hsecret.ne_nil hsecret.inside

-- The address as it is written in a configuration, the password to be filled in.
def withPlaceholder (user rest : String) : String :=
  "mysql://" ++ user ++ ":$\x7bPW\x7d@" ++ rest

theorem toList_withPlaceholder (user rest : String) : (withPlaceholder user rest).toList =
    (opening ++ user.toList ++ [':']) ++
      '$' :: openBrace :: 'P' :: (['W'] ++ closeBrace :: '@' :: rest.toList) := by
  have hfront : "mysql://".toList = opening := String.toList_ofList
  have hmiddle : ":$\x7bPW\x7d@".toList =
      [':', '$', openBrace, 'P', 'W', closeBrace, '@'] := String.toList_ofList
  rw [withPlaceholder, String.toList_append, String.toList_append, String.toList_append, hfront,
    hmiddle, List.append_assoc _ _ rest.toList, List.append_assoc _ [':']]
  rfl

theorem parse_of_expand {env : Environment} {raw text : String} (h : expand env raw = .ok text) :
    Dsn.parse env raw = ((Address.parse (trim text.toList)).mapError .invalidDsn >>=
      fun a => (Dsn.ofAddress a).mapError .violation) := by
  rw [Dsn.parse, h]
  rfl

theorem parse_withPlaceholder {env : Environment} {user rest value : String}
    (huser : '$' ∉ user.toList) (hrest : '$' ∉ rest.toList) (hvalue : env "PW" = some value) :
    Dsn.parse env (withPlaceholder user rest) =
      ((Address.parse (trim (opening ++
        (user.toList ++ ':' :: value.toList ++ '@' :: rest.toList)))).mapError .invalidDsn >>=
        fun a => (Dsn.ofAddress a).mapError .violation) := by
  have hraw : withPlaceholder user rest = .ofList ((opening ++ user.toList ++ [':']) ++
      '$' :: openBrace :: 'P' :: (['W'] ++ closeBrace :: '@' :: rest.toList)) := by
    rw [← toList_withPlaceholder, String.ofList_toList]
  have hbefore : '$' ∉ opening ++ user.toList ++ [':'] := by
    simp [opening, huser]
  have hafter : '$' ∉ '@' :: rest.toList := by
    simp [hrest]
  have hname : ∀ c ∈ ['W'], isNameChar c = true := by
    intro c hc
    rw [List.mem_singleton.mp hc]
    decide
  have hexpand := expand_hole hbefore hafter (by decide) hname hvalue
  have htext : (String.ofList (opening ++ user.toList ++ [':'] ++ value.toList ++
      '@' :: rest.toList)).toList =
      opening ++ (user.toList ++ ':' :: value.toList ++ '@' :: rest.toList) := by
    rw [String.toList_ofList]
    simp
  rw [hraw, parse_of_expand hexpand, htext]

-- Two readings of an address that differ in the password alone cannot be told
-- apart from outside.
theorem sameOutside_parse {env other : Environment} {user rest password password' : String}
    (huser : ∀ c ∈ user.toList, c ∉ [':', '/', '?', '#', '$']) (hrest : '$' ∉ rest.toList)
    (henv : env "PW" = some password) (hother : other "PW" = some password')
    (hpassword : Plain password.toList) (hpassword' : Plain password'.toList) :
    SameOutside (Dsn.parse env (withPlaceholder user rest))
      (Dsn.parse other (withPlaceholder user rest)) := by
  have hdollar : '$' ∉ user.toList := fun hmem => huser _ hmem (by decide)
  have hcolon : ':' ∉ user.toList := fun hmem => huser _ hmem (by decide)
  have hinside : ∀ c ∈ user.toList, endsAuthority false c = false := by
    intro c hc
    have hne := huser c hc
    simp only [List.mem_cons, List.not_mem_nil, or_false, not_or] at hne
    simp [endsAuthority, hne]
  obtain ⟨tail, outcome, hread⟩ := parse_password hcolon hinside rest.toList
  rw [parse_withPlaceholder hdollar hrest henv, parse_withPlaceholder hdollar hrest hother,
    hread _ hpassword, hread _ hpassword']
  cases outcome with
  | error fault => rfl
  | ok a => exact sameOutside_ofAddress a _ _

theorem Dsn.address_of_ofAddress {a : Address} {dsn : Dsn} (h : Dsn.ofAddress a = .ok dsn) :
    dsn.address = a := by
  simp only [Dsn.ofAddress] at h
  split at h
  · split at h
    · cases h
    · split at h
      · cases h
      · cases h
        rfl
  · cases h

-- The parts of an accepted address are those of a URL that was read.
theorem Dsn.escaped_of_parse {env : Environment} {raw : String} {dsn : Dsn}
    (h : Dsn.parse env raw = .ok dsn) : dsn.who.Escaped := by
  cases htext : expand env raw with
  | error name =>
    rw [Dsn.parse, htext] at h
    cases h
  | ok text =>
    rw [parse_of_expand htext] at h
    cases haddress : Address.parse (trim text.toList) with
    | error fault =>
      rw [haddress] at h
      cases h
    | ok a =>
      rw [haddress] at h
      cases hdsn : Dsn.ofAddress a with
      | error violation =>
        have hfailed : (Dsn.ofAddress a).mapError Rejection.violation = .ok dsn := h
        rw [hdsn] at hfailed
        cases hfailed
      | ok found =>
        have hfound : (Dsn.ofAddress a).mapError Rejection.violation = .ok dsn := h
        rw [hdsn] at hfound
        cases hfound
        have hauthority := dsn.authority_eq
        rw [Dsn.address_of_ofAddress hdsn] at hauthority
        exact Url.escaped_of_parse haddress hauthority

-- Only the password is replaced, and the stars stand in its place.
theorem Dsn.redacted_of_password {dsn : Dsn} {password : List Char}
    (h : dsn.who.password = some password) : ∃ after,
      dsn.toText.toList = opening ++ dsn.who.username ++ ':' :: password ++ '@' :: after ∧
      dsn.redacted.toList = opening ++ dsn.who.username ++ ':' :: mask ++ '@' :: after := by
  have hmasked : (dsn.address.withPassword mask).authority = some (dsn.who.withPassword mask) := by
    rw [Address.withPassword, dsn.authority_eq]
    rfl
  have hscheme : (dsn.address.withPassword mask).scheme = dsn.address.scheme := rfl
  refine ⟨dsn.address.behind dsn.who, ?_, ?_⟩
  · rw [toText, Address.toText, String.toList_ofList, text_of_password dsn.authority_eq h,
      dsn.scheme_eq]
    simp [opening]
  · rw [redacted, Address.toText, String.toList_ofList, redactedAddress_of_some h,
      text_of_password hmasked rfl, hscheme, dsn.scheme_eq]
    simp [opening, Authority.withPassword, Address.withPassword, Address.behind]

-- The password is not seen from outside: two readings that differ in it alone
-- end in the same fault or show the same text, and what is shown of an accepted
-- address is the address with stars for the password.
theorem password_concealed :
    (∀ (env other : Environment) (user rest password password' : String),
      (∀ c ∈ user.toList, c ∉ [':', '/', '?', '#', '$']) → '$' ∉ rest.toList →
      env "PW" = some password → other "PW" = some password' →
      (password ≠ "" ∧ ∀ c ∈ password.toList, c ∉ ['/', '?', '#', '\t', '\n', '\r']) →
      (password' ≠ "" ∧ ∀ c ∈ password'.toList, c ∉ ['/', '?', '#', '\t', '\n', '\r']) →
      SameOutside (Dsn.parse env (withPlaceholder user rest))
        (Dsn.parse other (withPlaceholder user rest))) ∧
    ∀ (env : Environment) (raw : String) (dsn : Dsn), Dsn.parse env raw = .ok dsn →
      (dsn.address.setPassword? Dsn.mask).isSome ∧
      (dsn.who.password = none → dsn.redacted = dsn.toText) ∧
      ∀ password, dsn.who.password = some password →
        (∀ c ∈ dsn.who.username ++ password, c ∉ [':', '@', '/', '?', '#']) ∧
        ∃ after,
          dsn.toText.toList = opening ++ dsn.who.username ++ ':' :: password ++ '@' :: after ∧
          dsn.redacted.toList = opening ++ dsn.who.username ++ ':' :: Dsn.mask ++ '@' :: after := by
  have hplain {text : String}
      (h : text ≠ "" ∧ ∀ c ∈ text.toList, c ∉ ['/', '?', '#', '\t', '\n', '\r']) :
      Plain text.toList := by
    obtain ⟨hne, hchars⟩ := h
    refine ⟨fun hnil => hne (String.toList_eq_nil_iff.mp hnil), fun c hc => ?_, fun c hc => ?_⟩ <;>
    · have hchar := hchars c hc
      simp only [List.mem_cons, List.not_mem_nil, or_false, not_or] at hchar
      simp [endsAuthority, isKept, hchar]
  constructor
  · intro env other user rest password password' huser hrest henv hother hpassword hpassword'
    exact sameOutside_parse huser hrest henv hother (hplain hpassword) (hplain hpassword')
  · intro env raw dsn hparse
    refine ⟨?_, ?_, ?_⟩
    · rw [dsn.setPassword?_mask]
      rfl
    · intro hnone
      rw [Dsn.redacted, Dsn.redactedAddress_of_none hnone]
      rfl
    · intro password hpassword
      refine ⟨fun c hc hmem => ?_, Dsn.redacted_of_password hpassword⟩
      have hset : ∀ d ∈ [':', '@', '/', '?', '#'], d ∈ userinfoSet := by
        simp [userinfoSet, pathSet, fragmentSet]
      exact (Dsn.escaped_of_parse hparse).not_mem_userinfoSet hpassword c hc (hset c hmem)

-- An environment with the password alone.
def vault (password : String) : Environment :=
  fun name => if name = "PW" then some password else none

theorem password_concealed_vault :
    SameOutside (Dsn.parse (vault "s3cret") (withPlaceholder "app" "db"))
      (Dsn.parse (vault "p@ss:%") (withPlaceholder "app" "db")) ∧
    ∃ dsn, Dsn.parse (vault "s3cret") (withPlaceholder "app" "db") = .ok dsn ∧
      (dsn.address.setPassword? Dsn.mask).isSome := by
  have hsome : ((Address.parse (trim (opening ++ ("app".toList ++ ':' :: "s3cret".toList ++
      '@' :: "db".toList)))).mapError Rejection.invalidDsn >>=
      fun a => (Dsn.ofAddress a).mapError .violation).toOption.isSome = true := by
    decide +kernel
  have henv : vault "s3cret" "PW" = some "s3cret" := rfl
  rw [← parse_withPlaceholder (by decide) (by decide) henv] at hsome
  have huser : "app".toList = ['a', 'p', 'p'] := String.toList_ofList
  have hfirst : "s3cret".toList = ['s', '3', 'c', 'r', 'e', 't'] := String.toList_ofList
  have hsecond : "p@ss:%".toList = ['p', '@', 's', 's', ':', '%'] := String.toList_ofList
  constructor
  · refine password_concealed.1 (vault "s3cret") (vault "p@ss:%") "app" "db" "s3cret" "p@ss:%"
      ?_ (by decide) rfl rfl ⟨by decide, ?_⟩ ⟨by decide, ?_⟩
    · rw [huser]
      simp
    · rw [hfirst]
      simp
    · rw [hsecond]
      simp
  · cases hparse : Dsn.parse (vault "s3cret") (withPlaceholder "app" "db") with
    | error fault =>
      rw [hparse] at hsome
      cases hsome
    | ok dsn => exact ⟨dsn, rfl, (password_concealed.2 _ _ dsn hparse).1⟩

end SysExporter.Config
