import MetricAgent.Proofs.Http.Attempts
import MetricAgent.Proofs.Http.Target
import MetricAgent.Proofs.Url.Rereading

/-!
The credentials of deliveries. What is configured goes before what stands in the URL, for the user
and for the token by itself; the URL itself loses both, and every request shows them in a header.
-/

namespace MetricAgent

open Config Http

/-! ### Base 64 -/

namespace Http

def base64Digits : List Char :=
  "ABCDEFGHIJKLMNOPQRSTUVWXYZabcdefghijklmnopqrstuvwxyz0123456789+/".toList

/-- The value of a digit; padding counts as zero. -/
def base64Value (c : Char) : Nat := if c = '=' then 0 else base64Digits.idxOf c

/-- The bytes that digits and padding stand for. -/
def ofBase64 : List Char → List UInt8
  | a :: b :: c :: d :: s =>
    let n := ((base64Value a * 64 + base64Value b) * 64 + base64Value c) * 64 + base64Value d
    let bytes := [UInt8.ofNat (n / 65536), UInt8.ofNat (n / 256 % 256), UInt8.ofNat (n % 256)]
    if c = '=' then bytes.take 1 else if d = '=' then bytes.take 2 else bytes ++ ofBase64 s
  | _ => []

lemma base64Digit_spec : ∀ n < 64, base64Digit n ≠ '=' ∧ base64Value (base64Digit n) = n := by
  decide

lemma ofNat_of_eq {a : UInt8} {n : Nat} (h : n = a.toNat) : UInt8.ofNat n = a := by
  rw [h, UInt8.ofNat_toNat]

lemma ofBase64_base64 (bs : List UInt8) : ofBase64 (base64 bs) = bs := by
  have hvalue (n : Nat) (hn : n < 64) := (base64Digit_spec n hn).2
  have hne (n : Nat) (hn : n < 64) := (base64Digit_spec n hn).1
  have hpad : base64Value '=' = 0 := rfl
  fun_induction base64 bs
  case case1 => rfl
  case case2 a n =>
    have ha := a.toNat_lt
    have hn : n = a.toNat * 16 := rfl
    simp only [ofBase64, if_true, hpad, hvalue (n / 64) (by omega), hvalue (n % 64) (by omega)]
    rw [ofNat_of_eq (a := a) (by omega)]
    rfl
  case case3 a b n =>
    have ha := a.toNat_lt
    have hb := b.toNat_lt
    have hn : n = (a.toNat * 256 + b.toNat) * 4 := rfl
    simp only [ofBase64, if_neg (hne (n % 64) (by omega)), if_true, hpad,
      hvalue (n / 4096) (by omega), hvalue (n / 64 % 64) (by omega), hvalue (n % 64) (by omega)]
    rw [ofNat_of_eq (a := a) (by omega), ofNat_of_eq (a := b) (by omega)]
    rfl
  case case4 a b c r n ih =>
    have ha := a.toNat_lt
    have hb := b.toNat_lt
    have hc := c.toNat_lt
    have hn : n = (a.toNat * 256 + b.toNat) * 256 + c.toNat := rfl
    simp only [ofBase64, if_neg (hne (n / 64 % 64) (by omega)), if_neg (hne (n % 64) (by omega)),
      hvalue (n / 262144) (by omega), hvalue (n / 4096 % 64) (by omega),
      hvalue (n / 64 % 64) (by omega), hvalue (n % 64) (by omega), ih]
    rw [ofNat_of_eq (a := a) (by omega), ofNat_of_eq (a := b) (by omega),
      ofNat_of_eq (a := c) (by omega)]
    rfl

end Http

/-! ### Users of URLs -/

namespace Url

variable {set : Char → Bool} {s name secret : List Char} {user : Option (List Char)} {u : Url}
  {p : Spelling}

/-- The name and the secret in front of an at sign; a secret stands behind the first colon. -/
inductive Names : Option (List Char) → List Char → List Char → Prop where
  | nobody : Names none [] []
  | name {name : List Char} : ':' ∉ name → Names (some name) name []
  | both {name secret : List Char} : ':' ∉ name →
      Names (some (name ++ ':' :: secret)) name secret

lemma exists_names (user : Option (List Char)) : ∃ name secret, Names user name secret := by
  cases user with
  | none => exact ⟨[], [], .nobody⟩
  | some s =>
    by_cases hcolon : ':' ∈ s
    · obtain ⟨name, secret, rfl, hname⟩ := List.eq_append_cons_of_mem hcolon
      exact ⟨name, secret, .both hname⟩
    · exact ⟨s, [], .name hcolon⟩

/-- What a URL keeps of a name or a secret: its encoded form, unless it is empty. -/
def keptPart (s : List Char) : Option (List Char) :=
  if s = [] then none else some (percentEncode inUserInfo s)

lemma isEmpty_percentEncode (set : Char → Bool) (s : List Char) :
    (percentEncode set s).isEmpty = decide (s = []) := by
  rw [Bool.eq_iff_iff, List.isEmpty_iff, percentEncode_eq_nil, decide_eq_true_iff]

lemma credentials_of_names (h : Names user name secret) : credentials (user.getD []) =
    (percentEncode inUserInfo name, keptPart secret) := by
  have hsplit : (user.getD []).takeWhile (· ≠ ':') = name ∧
      ((user.getD []).dropWhile (· ≠ ':')).drop 1 = secret := by
    cases h with
    | nobody => exact ⟨rfl, rfl⟩
    | name hname =>
      have htake : (name ++ []).takeWhile (· ≠ ':') = name :=
        Text.takeWhile_ne_append hname nofun
      have hdrop : (name ++ []).dropWhile (· ≠ ':') = [] := Text.dropWhile_ne_append hname nofun
      rw [List.append_nil] at htake hdrop
      refine ⟨htake, ?_⟩
      rw [Option.getD_some, hdrop]
      rfl
    | both hname =>
      have hcolon : ∀ c ∈ (':' :: secret).head?, c = ':' := by
        rintro c ⟨⟩
        rfl
      refine ⟨Text.takeWhile_ne_append hname hcolon, ?_⟩
      rw [Option.getD_some, Text.dropWhile_ne_append hname hcolon]
      rfl
  unfold credentials keptPart
  rw [hsplit.1, hsplit.2]
  simp only [isEmpty_percentEncode, decide_eq_true_eq]

lemma exists_names_of_parse (h : parse s = .ok u) (hu : u.allowsCredentials = true) :
    ∃ (p : Spelling) (name secret : List Char), p.IsSound ∧ clean s = p.text ∧
      Names p.user name secret ∧ u.username = percentEncode inUserInfo name ∧
      u.password = keptPart secret := by
  obtain ⟨p, hp, hclean⟩ := Spelling.exists_of_parse h hu
  obtain ⟨name, secret, hnames⟩ := exists_names p.user
  rw [hp.parse hclean, credentials_of_names hnames] at h
  obtain ⟨hostText, afterHost, afterPort, host, port, -, -, -, rfl⟩ := ofPlace_eq_ok h
  exact ⟨p, name, secret, hp, hclean, hnames, rfl, rfl⟩

end Url

/-! ### Headers -/

namespace Http.Delivery

variable {c : HttpConfig} {o : PayloadOptions} {d : Delivery} {r : Report}

/-- The bytes of a user and a token, each empty if it is absent. -/
def pair (d : Delivery) : List UInt8 :=
  (d.user.getD "" ++ ":" ++ d.token.getD "").toUTF8.toList

lemma authorization_eq (d : Delivery) : d.authorization =
    if d.user = none ∧ d.token = none then none
    else some ("Basic " ++ String.ofList (base64 d.pair)) := by
  unfold authorization pair
  cases d.user <;> cases d.token <;> rfl

lemma of_mem_sendAll {replies : Nat → Reply} {n : Nat} {bodies : List String}
    (h : r ∈ d.sendAll replies n bodies) : ∃ m body, r = d.send replies m body := by
  induction bodies generalizing n with
  | nil => cases h
  | cons body bodies ih =>
    rcases List.mem_cons.mp h with rfl | h
    · exact ⟨n, body, rfl⟩
    · exact ih h

lemma partOf_percentEncode (s : List Char) :
    partOf (Url.percentEncode Url.inUserInfo s) = (Url.keptPart s).map String.ofList := by
  unfold partOf Url.keptPart
  rw [Url.isEmpty_percentEncode]
  by_cases hs : s = [] <;> simp [hs]

lemma bind_partOf (s : List Char) :
    (Url.keptPart s).bind partOf = (Url.keptPart s).map String.ofList := by
  rw [← partOf_percentEncode]
  unfold Url.keptPart
  by_cases hs : s = []
  · subst hs
    rfl
  · rw [if_neg hs, Option.bind_some]

/--
**Credentials of deliveries.** The target is the URL as it is read, without its name and secret;
read again it is the same but for its host, which is read from its own text, and so it has no
credentials. User and token are each what is configured, even if that is empty, or else the encoded
part of the URL if it is not empty. Every request shows them in digits that can be decoded, an
absent one as empty, and shows nothing if both are absent.
-/
theorem credentials_of_ofConfig (h : ofConfig c o = .ok d) :
    ∃ (u : Url) (host : Url.Host) (p : Url.Spelling) (name secret : List Char),
      Url.parse c.url.toList = .ok u ∧ u.host = some host ∧ d.url = u.withoutCredentials ∧
      Url.parse d.url.chars = (Url.readHost (Url.isSpecial u.scheme) host.text).map
        (fun host => { d.url with host := some host }) ∧
      (∀ v, Url.parse d.url.chars = .ok v → v.username = [] ∧ v.password = none) ∧
      p.IsSound ∧ Url.clean c.url.toList = p.text ∧ Url.Names p.user name secret ∧
      d.user = (c.user <|> (Url.keptPart name).map String.ofList) ∧
      d.token = (c.token <|> (Url.keptPart secret).map String.ofList) ∧
      ∀ replies n bodies, ∀ r ∈ d.sendAll replies n bodies, ∀ e ∈ r.exchanges,
        e.1.target = String.ofList u.target ∧
        e.1.authorization = (if d.user = none ∧ d.token = none then none
          else some ("Basic " ++ String.ofList (base64 d.pair))) ∧
        ofBase64 (base64 d.pair) = d.pair := by
  obtain ⟨u, hu, hallows, rfl⟩ := ofConfig_eq_ok.mp h
  obtain ⟨host, ss, hnormal⟩ := Url.exists_isNormal hu hallows
  obtain ⟨p, name, secret, hp, hclean, hnames, husername, hpassword⟩ :=
    Url.exists_names_of_parse hu hallows
  have hreread := Url.parse_withoutCredentials hnormal
  refine ⟨u, host, p, name, secret, hu, hnormal.hasHost, rfl, hreread, fun v hv => ?again, hp,
    hclean, hnames, ?user, ?token, fun replies n bodies r hr e he => ?request⟩
  case again =>
    change Url.parse u.withoutCredentials.chars = _ at hv
    rw [hreread] at hv
    cases hhost : Url.readHost (Url.isSpecial u.scheme) host.text with
    | error e =>
      rw [hhost] at hv
      cases hv
    | ok host' =>
      rw [hhost] at hv
      cases hv
      exact ⟨rfl, rfl⟩
  case user =>
    change (c.user <|> partOf u.username) = _
    rw [husername, partOf_percentEncode]
  case token =>
    change (c.token <|> u.password.bind partOf) = _
    rw [hpassword, bind_partOf]
  case request =>
    obtain ⟨m, body, rfl⟩ := of_mem_sendAll hr
    rw [(isBlock_send _ replies m body).same e he]
    exact ⟨rfl, authorization_eq _, ofBase64_base64 _⟩

/-- A URL with a secret but no name, and a user that is configured as empty. -/
def emptyUser : HttpConfig :=
  { HttpConfig.default with url := "http://:hunter2@[::1]:8080/v1?q#f", user := some "" }

/-- Its delivery without any changes to what is delivered. -/
def emptyUserDelivery : Delivery :=
  { url :=
      { scheme := "http".toList, username := [], password := none
        host := some (.ipv6 [0, 0, 0, 0, 0, 0, 0, 1]), port := some 8080
        path := .segments ["v1".toList], query := some "q".toList, fragment := some "f".toList }
    user := some ""
    token := some "hunter2"
    networkTimeout := HttpConfig.default.networkTimeout
    backoff := initialBackoff
    options := ⟨none, none, none, false⟩ }

theorem credentials_of_ofConfig_emptyUser :
    ofConfig emptyUser ⟨none, none, none, false⟩ = .ok emptyUserDelivery ∧
      Url.parse emptyUserDelivery.url.chars = .ok emptyUserDelivery.url ∧
      ∀ replies n bodies, ∀ r ∈ emptyUserDelivery.sendAll replies n bodies, ∀ e ∈ r.exchanges,
        e.1.target = "/v1?q" ∧ e.1.authorization = some "Basic Omh1bnRlcjI=" := by
  have h : ofConfig emptyUser ⟨none, none, none, false⟩ = .ok emptyUserDelivery := by
    decide +kernel
  have hpair : "Basic " ++ String.ofList (base64 emptyUserDelivery.pair) =
      "Basic Omh1bnRlcjI=" := by
    decide +kernel
  obtain ⟨u, -, -, -, -, -, -, hurl, -, -, -, -, -, -, -, hrequest⟩ := credentials_of_ofConfig h
  refine ⟨h, by decide +kernel, fun replies n bodies r hr e he => ?_⟩
  obtain ⟨htarget, hauthorization, -⟩ := hrequest replies n bodies r hr e he
  have hsame : u.target = emptyUserDelivery.url.target := by
    rw [hurl]
    rfl
  refine ⟨?_, hauthorization.trans (congrArg some hpair)⟩
  rw [htarget, hsame]
  rfl

end Http.Delivery

end MetricAgent
