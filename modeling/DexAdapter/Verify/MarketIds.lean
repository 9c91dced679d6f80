import DexAdapter.Asset
import DexAdapter.Reference

/-!
# Ids on market sites

`Asset.fromToken` removes the site from a link and takes what stands before the first slash; it
does not look whether the site was there, nor for `?` and `#`. So it parses a link exactly when the
link is empty, or is the site and then a first part without these characters
(`fromToken_marketIds_iff`).
-/

namespace DexAdapter

namespace Asset

def terminators : List Char := ['/', '?', '#']

/-- The link `url` names the id `id`: the site, the id, and then nothing or a terminator. -/
def Names (site url id : List Char) : Prop :=
  ∃ rest, url = site ++ id ++ rest ∧ id ≠ [] ∧ (∀ c ∈ id, c ∉ terminators) ∧
    ∀ c ∈ rest.head?, c ∈ terminators

/-- The link is empty, or the site and a first part that ends at a slash or at the end only. -/
def Parsable (site url : List Char) : Prop :=
  url = [] ∨ ∃ path, url = site ++ path ∧ path.takeWhile (· != '/') ≠ [] ∧
    ∀ c ∈ path.takeWhile (· != '/'), c ≠ '?' ∧ c ≠ '#'

/-- `fromToken` yields exactly the id that the link names. -/
def Exact (site url : String) (found : Option String) : Prop :=
  ∀ id, found = some id ↔ Names site.toList url.toList id.toList

/-! ## One link -/

section Link

variable {site path id rest : List Char}

theorem ne_slash_of_mem_takeWhile {c : Char} (h : c ∈ path.takeWhile (· != '/')) : c ≠ '/' := by
  simpa using List.mem_takeWhile_imp h

/-- What stands before the first slash is the id, when it has no other terminator. -/
theorem names_takeWhile (hne : path.takeWhile (· != '/') ≠ [])
    (hclean : ∀ c ∈ path.takeWhile (· != '/'), c ≠ '?' ∧ c ≠ '#') :
    Names site (site ++ path) (path.takeWhile (· != '/')) := by
  refine ⟨path.dropWhile (· != '/'), ?_, hne, ?_, ?_⟩
  · rw [List.append_assoc, List.takeWhile_append_dropWhile]
  · intro c hc hterm
    have hslash := ne_slash_of_mem_takeWhile hc
    obtain ⟨hquestion, hhash⟩ := hclean c hc
    simp [terminators, hslash, hquestion, hhash] at hterm
  · intro c hc
    have hlast := List.head?_dropWhile_not (fun c => c != '/') path
    rw [Option.mem_def] at hc
    rw [hc] at hlast
    have hslash : c = '/' := by simpa using hlast
    simp [terminators, hslash]

/-- An id that the path begins with is what stands before the first slash, unless another
terminator follows it. -/
theorem takeWhile_of_names (hid : ∀ c ∈ id, c ∉ terminators)
    (hrest : ∀ c ∈ rest.head?, c ∈ terminators)
    (hclean : ∀ c ∈ (id ++ rest).takeWhile (· != '/'), c ≠ '?' ∧ c ≠ '#') :
    (id ++ rest).takeWhile (· != '/') = id := by
  have hslash : ∀ c ∈ id, (c != '/') = true := by
    intro c hc
    have := hid c hc
    simp only [terminators, List.mem_cons, not_or] at this
    simpa using this.1
  have htake : (id ++ rest).takeWhile (· != '/') = id ++ rest.takeWhile (· != '/') :=
    List.takeWhile_append_of_pos hslash
  cases rest with
  | nil => rw [htake, List.takeWhile_nil, List.append_nil]
  | cons c rest =>
    have hterm := hrest c rfl
    by_cases hc : c = '/'
    · subst hc
      simp [htake]
    · have hmem : c ∈ (id ++ c :: rest).takeWhile (· != '/') := by
        rw [htake, List.takeWhile_cons_of_pos (by simpa using hc)]
        simp
      obtain ⟨hquestion, hhash⟩ := hclean c hmem
      simp [terminators, hc, hquestion, hhash] at hterm

/-- **One link**: the text before the first slash of what follows the site is the id that the link
names, for exactly the links that are `Parsable`. -/
theorem names_iff_parsable (hsite : site ≠ []) {url : List Char} :
    (∀ id, (url ≠ [] ∧ (JsString.replace site [] url).takeWhile (· != '/') = id) ↔
        Names site url id) ↔ Parsable site url := by
  constructor
  · intro h
    by_cases hurl : url = []
    · exact Or.inl hurl
    · obtain ⟨first, hfirst⟩ : ∃ first,
          (JsString.replace site [] url).takeWhile (· != '/') = first := ⟨_, rfl⟩
      obtain ⟨rest, heq, hne, hid, -⟩ := (h first).1 ⟨hurl, hfirst⟩
      rw [List.append_assoc] at heq
      subst heq
      rw [JsString.replace_append, List.nil_append] at hfirst
      refine Or.inr ⟨first ++ rest, rfl, ?_, ?_⟩
      · rw [hfirst]
        exact hne
      · rw [hfirst]
        intro c hc
        have hterm := hid c hc
        simp only [terminators, List.mem_cons, not_or] at hterm
        exact ⟨hterm.2.1, hterm.2.2.1⟩
  · rintro (rfl | ⟨path, rfl, hne, hclean⟩) id
    · constructor
      · rintro ⟨hne, -⟩
        exact absurd rfl hne
      · rintro ⟨rest, heq, -⟩
        simp [hsite] at heq
    · rw [JsString.replace_append, List.nil_append]
      constructor
      · rintro ⟨-, rfl⟩
        exact names_takeWhile hne hclean
      · rintro ⟨rest, heq, -, hid, hrest⟩
        rw [List.append_assoc] at heq
        obtain rfl := List.append_cancel_left heq
        exact ⟨by simp [hsite], takeWhile_of_names hid hrest hclean⟩

end Link

theorem marketId_eq_some {site url id : String} :
    marketId site (some url) = some id ↔ url.toList ≠ [] ∧
      (JsString.replace site.toList [] url.toList).takeWhile (· != '/') = id.toList := by
  simp only [marketId, JsString.getElem?_zero_splitOn, Option.map_some,
    ← String.toList_eq_nil_iff]
  by_cases hurl : url.toList = []
  · simp [hurl]
  · simp only [hurl, if_false, Option.some.injEq, ne_eq, not_false_eq_true, true_and]
    rw [← String.toList_inj, String.toList_ofList]

theorem exact_marketId {site url : String} (hsite : site.toList ≠ []) :
    Exact site url (marketId site (some url)) ↔ Parsable site.toList url.toList := by
  rw [← names_iff_parsable hsite]
  constructor
  · intro h id
    have hid := h (String.ofList id)
    rwa [marketId_eq_some, String.toList_ofList] at hid
  · intro h id
    rw [marketId_eq_some]
    exact h id.toList

/-- **When the market ids are exact**: for each of the two sites, exactly when the link is
`Parsable`. -/
theorem fromToken_marketIds_iff (token : Token) (wegldIdentifier usdcIdentifier : String) :
    (∀ url, token.social.bind (·.coingecko) = some url →
      (Exact coinGeckoSite url (fromToken token wegldIdentifier usdcIdentifier).coinGeckoId ↔
        Parsable coinGeckoSite.toList url.toList)) ∧
    (∀ url, token.social.bind (·.coinmarketcap) = some url →
      (Exact coinMarketCapSite url
          (fromToken token wegldIdentifier usdcIdentifier).coinMarketCapId ↔
        Parsable coinMarketCapSite.toList url.toList)) := by
  constructor
  · intro url hurl
    simp only [fromToken, hurl]
    exact exact_marketId (by decide)
  · intro url hurl
    simp only [fromToken, hurl]
    exact exact_marketId (by decide)

/-- The asset of a response is that of the token that the lookup found. -/
theorem getAsset_eq_ok {env : Env} {identifier : String} {asset : Asset} :
    DataIntegrationService.getAsset env identifier = .ok asset ↔
      ∃ token, env.getToken identifier = .ok (some token) ∧
        asset = fromToken token env.apiConfigService.wrappedEGLDIdentifier
          env.apiConfigService.wrappedUSDCIdentifier := by
  unfold DataIntegrationService.getAsset
  rw [Collect.bind_eq_ok]
  constructor
  · rintro ⟨token, htoken, h⟩
    cases token with
    | none => cases h
    | some token => exact ⟨token, htoken, (Except.ok.inj h).symm⟩
  · rintro ⟨token, htoken, rfl⟩
    exact ⟨some token, htoken, rfl⟩

/-- A response yields the ids that the links of its token name, for links that are `Parsable`. -/
theorem getAsset_marketIds {env : Env} {identifier : String} {asset : Asset}
    (h : DataIntegrationService.getAsset env identifier = .ok asset) :
    ∃ token, env.getToken identifier = .ok (some token) ∧
      (∀ url, token.social.bind (·.coingecko) = some url →
        Parsable coinGeckoSite.toList url.toList → Exact coinGeckoSite url asset.coinGeckoId) ∧
      ∀ url, token.social.bind (·.coinmarketcap) = some url →
        Parsable coinMarketCapSite.toList url.toList →
          Exact coinMarketCapSite url asset.coinMarketCapId := by
  obtain ⟨token, htoken, rfl⟩ := getAsset_eq_ok.1 h
  refine ⟨token, htoken, ?_, ?_⟩
  · intro url hurl hparsable
    simp only [fromToken, hurl]
    exact (exact_marketId (by decide)).2 hparsable
  · intro url hurl hparsable
    simp only [fromToken, hurl]
    exact (exact_marketId (by decide)).2 hparsable

namespace Reference

/-- A token with these two links. -/
def linked (coingecko coinmarketcap : String) : Token :=
  { DexAdapter.Reference.token "MEX-455c57" 18 with
    assets := some
      { social := some { coingecko := some coingecko, coinmarketcap := some coinmarketcap } } }

/-- Links to other pages of the two sites. -/
def otherPages : Token :=
  linked "https://www.coingecko.com/coins/maiar-dex"
    "https://coinmarketcap.com/currencies/maiar-dex?lang=en"

/-- The ids of these links are the scheme of the one and the query of the other. -/
theorem otherPages_not_exact :
    (fromToken otherPages "WEGLD-bd4d79" "USDC-c76f1f").coinGeckoId = some "https:" ∧
    ¬ Exact coinGeckoSite "https://www.coingecko.com/coins/maiar-dex"
      (fromToken otherPages "WEGLD-bd4d79" "USDC-c76f1f").coinGeckoId ∧
    (fromToken otherPages "WEGLD-bd4d79" "USDC-c76f1f").coinMarketCapId =
      some "maiar-dex?lang=en" ∧
    ¬ Exact coinMarketCapSite "https://coinmarketcap.com/currencies/maiar-dex?lang=en"
      (fromToken otherPages "WEGLD-bd4d79" "USDC-c76f1f").coinMarketCapId := by
  have hgecko : (fromToken otherPages "WEGLD-bd4d79" "USDC-c76f1f").coinGeckoId =
      some "https:" := by decide +kernel
  have hcap : (fromToken otherPages "WEGLD-bd4d79" "USDC-c76f1f").coinMarketCapId =
      some "maiar-dex?lang=en" := by decide +kernel
  refine ⟨hgecko, fun hexact => ?_, hcap, fun hexact => ?_⟩
  · obtain ⟨rest, heq, -⟩ := (hexact "https:").1 hgecko
    rw [List.append_assoc] at heq
    have hsite := List.prefix_append coinGeckoSite.toList ("https:".toList ++ rest)
    rw [← heq] at hsite
    exact absurd hsite (by decide +kernel)
  · obtain ⟨-, -, -, hid, -⟩ := (hexact "maiar-dex?lang=en").1 hcap
    exact hid '?' (by decide +kernel) (by decide)

theorem fromToken_marketIds_iff_otherPages :
    Exact coinGeckoSite "https://www.coingecko.com/coins/maiar-dex"
        (fromToken otherPages "WEGLD-bd4d79" "USDC-c76f1f").coinGeckoId ↔
      Parsable coinGeckoSite.toList "https://www.coingecko.com/coins/maiar-dex".toList :=
  (fromToken_marketIds_iff otherPages "WEGLD-bd4d79" "USDC-c76f1f").1 _ rfl

end Reference

end Asset

end DexAdapter
