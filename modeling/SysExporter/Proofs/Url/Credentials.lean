import SysExporter.Proofs.Text.Delimiters
import SysExporter.Url.Address

namespace SysExporter.Url

open Text

def Authority.withPassword (who : Authority) (password : List Char) : Authority :=
  { who with password := some password }

def Address.withPassword (a : Address) (password : List Char) : Address :=
  { a with authority := a.authority.map (·.withPassword password) }

theorem Address.withPassword_withPassword (a : Address) (password other : List Char) :
    (a.withPassword password).withPassword other = a.withPassword other := by
  rw [withPassword, withPassword, Option.map_map]
  rfl

theorem hexDigit_not_mem_userinfoSet {n : Nat} (h : n < 16) : hexDigit n ∉ userinfoSet := by
  have hall : ∀ n : Fin 16, hexDigit n ∉ userinfoSet := by decide
  exact hall ⟨n, h⟩

-- Nothing of the set is left in an escaped name or password.
theorem not_mem_userinfoSet_of_mem_escape {text : List Char} {c : Char}
    (h : c ∈ escape userinfoSet text) : c ∉ userinfoSet := by
  obtain ⟨d, -, hc⟩ := List.mem_flatMap.mp h
  simp only [escapeChar] at hc
  split at hc
  · obtain ⟨byte, -, hc⟩ := List.mem_flatMap.mp hc
    have hbyte : byte.toNat < 256 := byte.toNat_lt
    simp only [escapeByte, List.mem_cons, List.not_mem_nil, or_false] at hc
    rcases hc with rfl | rfl | rfl
    · decide
    · exact hexDigit_not_mem_userinfoSet (by omega)
    · exact hexDigit_not_mem_userinfoSet (by omega)
  · rename_i hplain
    rw [List.mem_singleton.mp hc]
    intro hmem
    exact hplain (by simp [needsEscape, hmem])

-- Whatever stands before an at sign, the last at sign behind it splits the text
-- in the same place.
theorem splitLastAt_append (rest : List Char) : ∃ tail host : List Char,
    ∀ before, splitLastAt (before ++ '@' :: rest) = some (before ++ tail, host) := by
  have hmem : '@' ∈ rest.reverse ++ ['@'] := by simp
  obtain ⟨host, tail, hrest, hhost⟩ := List.eq_append_cons_of_mem hmem
  have hkept : ∀ c ∈ host, decide (c ≠ '@') = true :=
    fun c hc => decide_eq_true fun heq => hhost (heq ▸ hc)
  have hend : decide ('@' ≠ '@') = false := by decide
  refine ⟨tail.reverse, host.reverse, fun before => ?_⟩
  have hreverse : (before ++ '@' :: rest).reverse = host ++ '@' :: (tail ++ before.reverse) := by
    have happend : (before ++ '@' :: rest).reverse = (rest.reverse ++ ['@']) ++ before.reverse := by
      simp
    rw [happend, hrest, List.append_assoc, List.cons_append]
  rw [splitLastAt, hreverse, takeWhile_append_cons hkept hend, dropWhile_append_cons hkept hend]
  simp

-- The first colon ends the name, and all behind it is the password.
theorem splitUserinfo_colon {user password : List Char} (huser : ':' ∉ user)
    (hpassword : password ≠ []) :
    splitUserinfo (user ++ ':' :: password) =
      (escape userinfoSet user, some (escape userinfoSet password)) := by
  have hkept : ∀ c ∈ user, decide (c ≠ ':') = true :=
    fun c hc => decide_eq_true fun heq => huser (heq ▸ hc)
  have hend : decide (':' ≠ ':') = false := by decide
  obtain ⟨first, more, rfl⟩ := List.exists_cons_of_ne_nil hpassword
  rw [splitUserinfo, takeWhile_append_cons hkept hend, dropWhile_append_cons hkept hend]

-- An authority with a password: host, port and what is left to the path do not
-- depend on it.
theorem parseAuthority_password {user : List Char} (huser : ':' ∉ user)
    (scheme rest : List Char) (more : Bool) :
    ∃ (tail : List Char) (outcome : Except Fault (Authority × List Char)),
      ∀ secret, secret ≠ [] →
        parseAuthority scheme (user ++ ':' :: secret ++ '@' :: rest) more =
          outcome.map fun found =>
            (found.1.withPassword (escape userinfoSet (secret ++ tail)), found.2) := by
  obtain ⟨tail, host, hsplit⟩ := splitLastAt_append rest
  refine ⟨tail, (parseHostPort scheme host true).map fun found =>
    (⟨escape userinfoSet user, none, found.1, found.2.1⟩, found.2.2), fun secret hsecret => ?_⟩
  have huserinfo : splitUserinfo (user ++ ':' :: secret ++ tail) =
      (escape userinfoSet user, some (escape userinfoSet (secret ++ tail))) := by
    rw [List.append_assoc, List.cons_append]
    exact splitUserinfo_colon huser (by simp [hsecret])
  have hsome : (user ++ ':' :: secret ++ tail).isEmpty = false := by simp
  simp only [parseAuthority, hsplit, Option.getD_some, hsome, Bool.false_and, huserinfo,
    Option.isSome_some, Bool.or_true]
  cases parseHostPort scheme host true with
  | error fault => rfl
  | ok found => rfl

-- An address of the general kind with a password.
theorem parseWithAuthority_password {scheme user : List Char} (hweb : isWeb scheme = false)
    (hcolon : ':' ∉ user) (huser : ∀ c ∈ user, endsAuthority false c = false)
    (rest : List Char) :
    ∃ (tail : List Char) (outcome : Except Fault Address),
      ∀ secret, secret ≠ [] → (∀ c ∈ secret, endsAuthority false c = false) →
        parseWithAuthority scheme (user ++ ':' :: secret ++ '@' :: rest) =
          outcome.map (·.withPassword (escape userinfoSet (secret ++ tail))) := by
  obtain ⟨tail, outcome, hauthority⟩ := parseAuthority_password hcolon scheme
    (rest.takeWhile (!endsAuthority false ·)) (!(rest.dropWhile (!endsAuthority false ·)).isEmpty)
  refine ⟨tail, outcome.map fun found =>
    let pieces := splitTail (found.2 ++ rest.dropWhile (!endsAuthority false ·))
    ⟨scheme, some found.1, authorityPath false pieces.1, pieces.2.1, pieces.2.2⟩,
    fun secret hsecret hplain => ?_⟩
  have hkept : ∀ c ∈ user ++ ':' :: secret ++ ['@'], (!endsAuthority false c) = true := by
    intro c hc
    simp only [List.mem_append, List.mem_cons, List.not_mem_nil, or_false] at hc
    rcases hc with (hc | rfl | hc) | rfl
    · rw [huser c hc]
      rfl
    · decide
    · rw [hplain c hc]
      rfl
    · decide
  have happend : user ++ ':' :: secret ++ '@' :: rest =
      (user ++ ':' :: secret ++ ['@']) ++ rest := by simp
  have hspan : (user ++ ':' :: secret ++ '@' :: rest).takeWhile (!endsAuthority false ·) =
      user ++ ':' :: secret ++ '@' :: rest.takeWhile (!endsAuthority false ·) := by
    rw [happend, List.takeWhile_append_of_pos hkept]
    simp
  have hbehind : (user ++ ':' :: secret ++ '@' :: rest).dropWhile (!endsAuthority false ·) =
      rest.dropWhile (!endsAuthority false ·) := by
    rw [happend, List.dropWhile_append_of_pos hkept]
  simp only [parseWithAuthority, hweb, hspan, hbehind, hauthority secret hsecret]
  cases outcome with
  | error fault => rfl
  | ok found => rfl

theorem isKept_of_isEdge_eq_false {c : Char} (h : isEdge c = false) : isKept c = true := by
  have hcode : 0x20 < c.toNat := by simpa [isEdge] using h
  have hne {d : Char} (hd : d.toNat ≤ 0x20) : c ≠ d := by
    rintro rfl
    omega
  simp [isKept, hne (d := '\t') (by decide), hne (d := '\n') (by decide),
    hne (d := '\r') (by decide)]

-- What is left of a text behind a character that is no edge.
def stripEnd (text : List Char) : List Char :=
  ((text.reverse.dropWhile isEdge).reverse).filter isKept

theorem strip_append_cons {first last : Char} (hfirst : isEdge first = false)
    (hlast : isEdge last = false) (text rest : List Char) :
    strip (first :: (text ++ last :: rest)) =
      (first :: text).filter isKept ++ last :: stripEnd rest := by
  rw [strip, List.dropWhile_cons_of_neg (by simp [hfirst]), ← List.cons_append,
    dropWhile_reverse_append_cons _ _ hlast, List.filter_append,
    List.filter_cons_of_pos (isKept_of_isEdge_eq_false hlast)]
  rfl

-- What stands behind the at sign.
def Address.behind (a : Address) (who : Authority) : List Char :=
  who.host ++ (who.port.elim [] fun port => ':' :: Nat.toDigits 10 port) ++ a.path ++
    (a.query.elim [] ('?' :: ·)) ++ (a.fragment.elim [] ('#' :: ·))

theorem text_of_password {a : Address} {who : Authority} {password : List Char}
    (hwho : a.authority = some who) (hpassword : who.password = some password) :
    a.text = a.scheme ++ ':' :: '/' :: '/' ::
      (who.username ++ ':' :: password ++ '@' :: a.behind who) := by
  simp [Address.text, Authority.text, Authority.userinfo, Address.behind, hwho, hpassword]

-- The name and the password of an authority that was read are escaped.
structure Authority.Escaped (who : Authority) : Prop where
  username : ∃ text, who.username = escape userinfoSet text
  password : ∀ password, who.password = some password → ∃ text, password = escape userinfoSet text

theorem Authority.Escaped.not_mem_userinfoSet {who : Authority} {password : List Char}
    (h : who.Escaped) (hpassword : who.password = some password) :
    ∀ c ∈ who.username ++ password, c ∉ userinfoSet := by
  obtain ⟨name, hname⟩ := h.username
  obtain ⟨secret, hsecret⟩ := h.password password hpassword
  intro c hc
  rcases List.mem_append.mp hc with hc | hc
  · exact not_mem_userinfoSet_of_mem_escape (hname ▸ hc)
  · exact not_mem_userinfoSet_of_mem_escape (hsecret ▸ hc)

theorem escaped_splitUserinfo (text host : List Char) (port : Option Nat) :
    Authority.Escaped ⟨(splitUserinfo text).1, (splitUserinfo text).2, host, port⟩ := by
  rw [splitUserinfo]
  split
  · exact ⟨⟨_, rfl⟩, fun password hpassword => ⟨_, (Option.some.inj hpassword).symm⟩⟩
  · exact ⟨⟨_, rfl⟩, fun password hpassword => nomatch hpassword⟩

theorem escaped_of_parseAuthority {scheme text left : List Char} {more : Bool} {who : Authority}
    (h : parseAuthority scheme text more = .ok (who, left)) : who.Escaped := by
  simp only [parseAuthority] at h
  split at h
  · cases h
  · generalize parseHostPort _ _ _ = found at h
    cases found with
    | error fault => cases h
    | ok found =>
      cases h
      exact escaped_splitUserinfo _ _ _

theorem escaped_of_parseWithAuthority {scheme text : List Char} {a : Address} {who : Authority}
    (h : parseWithAuthority scheme text = .ok a) (hwho : a.authority = some who) :
    who.Escaped := by
  simp only [parseWithAuthority] at h
  cases hread : parseAuthority scheme (text.takeWhile (!endsAuthority (isWeb scheme) ·))
      (!(text.dropWhile (!endsAuthority (isWeb scheme) ·)).isEmpty) with
  | error fault =>
    rw [hread] at h
    cases h
  | ok found =>
    rw [hread] at h
    cases h
    cases hwho
    exact escaped_of_parseAuthority hread

theorem authority_of_parseFile {scheme text : List Char} {a : Address}
    (h : parseFile scheme text = .ok a) : a.authority = none := by
  simp only [parseFile] at h
  split at h
  · split at h
    · split at h
      · generalize parseDomain _ = host at h
        cases host with
        | error fault => cases h
        | ok host =>
          cases h
          rfl
      · cases h
        rfl
    · cases h
      rfl
  · cases h
    rfl

theorem escaped_of_parse {text : List Char} {a : Address} {who : Authority}
    (h : Address.parse text = .ok a) (hwho : a.authority = some who) : who.Escaped := by
  simp only [Address.parse] at h
  split at h
  · cases h
  · split at h
    · rw [authority_of_parseFile h] at hwho
      cases hwho
    · split at h
      · exact escaped_of_parseWithAuthority h hwho
      · split at h
        · exact escaped_of_parseWithAuthority h hwho
        · cases h
          cases hwho

end SysExporter.Url
