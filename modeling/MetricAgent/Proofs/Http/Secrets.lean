import MetricAgent.Proofs.Http.Credentials
import MetricAgent.Proofs.Text.Quoted

/-!
What is told about secrets. The description of a delivery is the same for every secret, and so is
that of its settings for every token; but it tells the URL of the settings with all that is in it.
-/

namespace MetricAgent

open Config Http Text

/-! ### URLs that differ in a user -/

namespace Url

variable {scheme place rest : List Char} {u : Url}

/-- The same URL with another name and secret. -/
def withCredentials (u : Url) (user : List Char × Option (List Char)) : Url :=
  { u with username := user.1, password := user.2 }

lemma ofPlace_eq_map (user : List Char × Option (List Char)) : ofPlace scheme place rest user =
    (ofPlace scheme place rest ([], none)).map (·.withCredentials user) := by
  unfold ofPlace
  generalize spanHost false place = cut
  obtain ⟨hostText, afterHost⟩ := cut
  simp only [bind, Except.bind]
  split
  next => rfl
  next =>
    cases readHost (isSpecial scheme) hostText with
    | error e => rfl
    | ok host => cases readPort scheme afterHost <;> rfl

/-- The same spelling with another user. -/
def Spelling.withUser (p : Spelling) (user : List Char) : Spelling := { p with user := some user }

end Url

namespace Http

variable {c c₁ c₂ : HttpConfig}

/-- Settings that differ in a secret alone: in the token, or in what stands for it in the URL. -/
inductive SameButSecret : HttpConfig → HttpConfig → Prop where
  | token (c : HttpConfig) (t₁ t₂ : String) :
      SameButSecret { c with token := some t₁ } { c with token := some t₂ }
  | url (c : HttpConfig) (p : Url.Spelling) (name secret₁ secret₂ : List Char) {url₁ url₂ : String}
      (name_plain : ':' ∉ name) (secret₁_ne_nil : secret₁ ≠ []) (secret₂_ne_nil : secret₂ ≠ [])
      (sound₁ : (p.withUser (name ++ ':' :: secret₁)).IsSound)
      (sound₂ : (p.withUser (name ++ ':' :: secret₂)).IsSound)
      (text₁ : Url.clean url₁.toList = (p.withUser (name ++ ':' :: secret₁)).text)
      (text₂ : Url.clean url₂.toList = (p.withUser (name ++ ':' :: secret₂)).text) :
      SameButSecret { c with url := url₁ } { c with url := url₂ }

lemma describe_withUrl (c : HttpConfig) (a b : String) :
    ({ c with url := a } : HttpConfig).describe = ({ c with url := b } : HttpConfig).describe ↔
      a = b := by
  unfold HttpConfig.describe
  simp only [String.append_left_inj, String.append_right_inj, quote_inj]

lemma describe_withToken (c : HttpConfig) (a b : String) :
    ({ c with token := some a } : HttpConfig).describe =
      ({ c with token := some b } : HttpConfig).describe := by
  unfold HttpConfig.describe
  rfl

lemma describe_toUrl {u₁ u₂ : Url} (o : PayloadOptions) (huser : c₁.user = c₂.user)
    (htimeout : c₁.networkTimeout = c₂.networkTimeout)
    (hurl : u₁.withoutCredentials = u₂.withoutCredentials) (hname : u₁.username = u₂.username) :
    (Delivery.toUrl c₁ o u₁).describe = (Delivery.toUrl c₂ o u₂).describe := by
  unfold Delivery.describe Delivery.toUrl
  rw [huser, htimeout, hurl, hname]

/-- URLs that are read alike but for their secrets lead to deliveries that are told alike. -/
lemma map_describe_ofConfig (huser : c₁.user = c₂.user)
    (htimeout : c₁.networkTimeout = c₂.networkTimeout) {base : Except Url.UrlError Url}
    {f₁ f₂ : Url → Url} (hparse₁ : Url.parse c₁.url.toList = base.map f₁)
    (hparse₂ : Url.parse c₂.url.toList = base.map f₂)
    (hurl : ∀ u, (f₁ u).withoutCredentials = (f₂ u).withoutCredentials)
    (hname : ∀ u, (f₁ u).username = (f₂ u).username) (o : PayloadOptions) :
    (Delivery.ofConfig c₁ o).map Delivery.describe =
      (Delivery.ofConfig c₂ o).map Delivery.describe := by
  cases base with
  | error e =>
    rw [Delivery.ofConfig_of_error hparse₁, Delivery.ofConfig_of_error hparse₂]
  | ok u =>
    -- whether there is a place for a user does not depend on the user
    have hallows (u : Url) : u.allowsCredentials = u.withoutCredentials.allowsCredentials := rfl
    have hallows : (f₁ u).allowsCredentials = (f₂ u).allowsCredentials := by
      rw [hallows, hurl, ← hallows]
    rw [Delivery.ofConfig_of_ok hparse₁, Delivery.ofConfig_of_ok hparse₂, hallows]
    split
    · exact congrArg Except.ok (describe_toUrl o huser htimeout (hurl u) (hname u))
    · rfl

/--
**What is told about secrets.** Settings that differ in a secret alone come to deliveries that are
told alike, or to the same error. They are told alike themselves exactly if they have the same URL:
the token is not told, but a secret in the URL is.
-/
theorem told_of_sameButSecret (h : SameButSecret c₁ c₂) :
    (∀ o, (Delivery.ofConfig c₁ o).map Delivery.describe =
      (Delivery.ofConfig c₂ o).map Delivery.describe) ∧
    (c₁.describe = c₂.describe ↔ c₁.url = c₂.url) := by
  cases h with
  | token c t₁ t₂ =>
    have hparse : Url.parse c.url.toList = (Url.parse c.url.toList).map id := by
      cases Url.parse c.url.toList <;> rfl
    exact ⟨map_describe_ofConfig rfl rfl hparse hparse (fun _ => rfl) fun _ => rfl,
      iff_of_true (describe_withToken c t₁ t₂) rfl⟩
  | @url c p name secret₁ secret₂ url₁ url₂ hname _ _ hsound₁ hsound₂ htext₁ htext₂ =>
    have hparse {url secret : List Char} (hs : (p.withUser (name ++ ':' :: secret)).IsSound)
        (ht : Url.clean url = (p.withUser (name ++ ':' :: secret)).text) :
        Url.parse url = (Url.ofPlace p.lower p.place p.rest ([], none)).map
          (·.withCredentials (Url.percentEncode Url.inUserInfo name, Url.keptPart secret)) := by
      rw [hs.parse ht, ← Url.ofPlace_eq_map]
      exact congrArg _ (Url.credentials_of_names (.both hname))
    exact ⟨map_describe_ofConfig rfl rfl (hparse hsound₁ htext₁) (hparse hsound₂ htext₂)
      (fun _ => rfl) fun _ => rfl, describe_withUrl c url₁ url₂⟩

/-- Settings with a secret in their URL. -/
def secretInUrl (secret : String) : HttpConfig :=
  { HttpConfig.default with url := "http://user:" ++ secret ++ "@[::1]/" }

lemma sameButSecret_secretInUrl :
    SameButSecret (secretInUrl "hunter2") (secretInUrl "swordfish") := by
  refine .url HttpConfig.default
    ⟨"http".toList, "//".toList, none, "[::1]".toList, "/".toList⟩ "user".toList
    "hunter2".toList "swordfish".toList ?_ ?_ ?_ ?_ ?_ ?_ ?_
  all_goals decide

/-- Settings tell the secret that stands in their URL. -/
theorem secret_of_url_told : SameButSecret (secretInUrl "hunter2") (secretInUrl "swordfish") ∧
    (secretInUrl "hunter2").describe ≠ (secretInUrl "swordfish").describe :=
  ⟨sameButSecret_secretInUrl, by decide +kernel⟩

/-- Deliveries are made with either secret, and both are told alike. -/
theorem told_of_sameButSecret_secretInUrl :
    (Delivery.ofConfig (secretInUrl "hunter2") ⟨none, none, none, false⟩).isOk = true ∧
      (Delivery.ofConfig (secretInUrl "hunter2") ⟨none, none, none, false⟩).map Delivery.describe =
        (Delivery.ofConfig (secretInUrl "swordfish") ⟨none, none, none, false⟩).map
          Delivery.describe :=
  ⟨by decide +kernel, (told_of_sameButSecret sameButSecret_secretInUrl).1 _⟩

end Http

end MetricAgent
