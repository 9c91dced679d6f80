import DexAdapter.Verify.Malformed
import DexAdapter.Verify.Numbering

/-!
# Undecodable events

A class that throws is not caught, so one document that is not readable fails the whole call; and
an undecodable document that is readable can be reported with what its class read in place of the
fields that are missing. `isolated_iff`: the call isolates an undecodable document exactly when all
documents are readable and this one is not misread.
-/

namespace DexAdapter

open Collect DataIntegrationService

namespace Request

variable {env : Env} {fromBlock toBlock : Int} (r : Request env fromBlock toBlock)

/-- The call succeeds, and returns the same when this document is not there. -/
def Isolates (dex : Dex) (before after : List ElasticEvent) : Prop :=
  ∃ events, getEvents env fromBlock toBlock = .ok events ∧
    getEvents (r.handing (r.replaced dex (before ++ after))) fromBlock toBlock = .ok events

theorem occurrences_split {dex : Dex} {before after : List ElasticEvent} {e : ElasticEvent}
    (hraw : r.raw dex = before ++ e :: after) :
    ∃ xs ys, r.occurrences = xs ++ (dex, e) :: ys ∧
      occurrencesOf (r.replaced dex (before ++ after)) = xs ++ ys := by
  cases dex with
  | xExchange =>
    refine ⟨before.map fun e => (Dex.xExchange, e), (after.map fun e => (Dex.xExchange, e)) ++
      (r.raw .oneDex).map fun e => (Dex.oneDex, e), ?_, ?_⟩
    · simp [occurrences, occurrencesOf, hraw]
    · simp [occurrencesOf, replaced]
  | oneDex =>
    refine ⟨((r.raw .xExchange).map fun e => (Dex.xExchange, e)) ++
      before.map fun e => (Dex.oneDex, e), after.map fun e => (Dex.oneDex, e), ?_, ?_⟩
    · simp [occurrences, occurrencesOf, hraw]
    · simp [occurrencesOf, replaced]

/-- A document is isolated when the classes of all documents return and its own adds nothing. -/
theorem isolates_iff_report {dex : Dex} {before after : List ElasticEvent} {e : ElasticEvent}
    (hraw : r.raw dex = before ++ e :: after) :
    r.Isolates dex before after ↔
      r.Decodable ∧ ¬ ∃ re, r.report (dex, e) = .ok (some re) := by
  obtain ⟨xs, ys, hocc, hocc'⟩ := r.occurrences_split hraw
  have hwithout := r.getEvents_handing (r.replaced dex (before ++ after))
  rw [hocc'] at hwithout
  constructor
  · rintro ⟨events, hevents, hsame⟩
    have hdecodable : r.Decodable := r.succeeds_getEvents.1 ⟨events, hevents⟩
    refine ⟨hdecodable, ?_⟩
    rintro ⟨re, hre⟩
    -- the response has one event more than the response without the document
    obtain ⟨rest, hrest, hpublished⟩ := bind_eq_ok.1 (hwithout.symm.trans hsame)
    rw [(collect_eq_ok_iff.1 hrest).2] at hpublished
    rw [r.getEvents_of_decodable hdecodable, reported, hocc] at hevents
    have hlength := congrArg List.length
      (Except.ok.inj (hevents.trans hpublished.symm))
    rw [length_publish, length_publish, List.filterMap_append, List.filterMap_append,
      List.filterMap_cons_some (pushed_of_ok hre)] at hlength
    simp only [List.length_append, List.length_cons] at hlength
    omega
  · rintro ⟨hdecodable, hnone⟩
    have hskip : r.report (dex, e) = .ok none := by
      have hmem : (dex, e) ∈ r.occurrences := by
        rw [hocc]
        exact List.mem_append_right _ List.mem_cons_self
      obtain ⟨pushed, hpushed⟩ := hdecodable.report hmem
      cases pushed with
      | none => exact hpushed
      | some re => exact absurd ⟨re, hpushed⟩ hnone
    refine ⟨_, r.getEvents_of_decodable hdecodable, ?_⟩
    rw [hwithout, ← collect_skip hskip, ← hocc, ← r.getEvents_eq,
      r.getEvents_of_decodable hdecodable]

theorem decodable_iff_readable (hcodec : env.sdk.codec.SlicesNested) :
    r.Decodable ↔ ∀ d ∈ r.occurrences, r.isSearched d = true → Readable env d :=
  forall₂_congr fun _ _ =>
    forall_congr' fun hsearched => Snapshot.constructs_iff_readable hcodec hsearched

/-- A document that is not searched is not reported, and not misread. -/
theorem not_misread_of_not_searched {d : Dex × ElasticEvent} (h : ¬ r.isSearched d = true) :
    ¬ r.Misread d := by
  intro hmisread
  cases hmisread with
  | xExchangeSwap hsearched | xExchangeLiquidity hsearched | oneDexLiquidity hsearched =>
    exact h hsearched

end Request

namespace Reference

/-- A deposit into the first pair. -/
def oneDexDeposit : SwapAbi.LiquidityEvent where
  caller := user 1
  first_token_id := wegld
  first_token_amount := 10 ^ 18
  second_token_id := usdc
  second_token_amount := 3 * 10 ^ 6
  lp_token_id := ⟨"LP-1", by decide⟩
  lp_token_amount := 10 ^ 18
  timestamp := 6000
  pair_id := 1
  first_token_reserve := 101 * 10 ^ 18
  second_token_reserve := 303 * 10 ^ 6
  lp_token_supply := 101 * 10 ^ 18

/-- The document of the contract with these topics, after the swaps of the market. -/
def oneDexDocument (topics : List String) : ElasticEvent :=
  document
    { timestamp := 6000, txHash := "dd", originalTxHash := none, txOrder := 2, order := 0,
      shardId := 1 }
    "event" config.oneDexSwapAddress topics none

/-- A deposit without its last three topics, the reserves and the supply. -/
def cutDeposit : ElasticEvent :=
  oneDexDocument ((oneDexDeposit.topics "AddLiquidityEvent").take 10)

/-- A swap without its last topic, the number of its pair. -/
def cutSwap : ElasticEvent :=
  oneDexDocument (((oneDexSwap (user 1) 1 6000).topics "SwapTokensFixedInputEvent").take 9)

/-- The market with one more document. -/
def marketWith (e : ElasticEvent) : Indices := { market with events := market.events ++ [e] }

def marketWithEnv (e : ElasticEvent) : Env :=
  env (marketWith e) [routerEntry] [oneDexPair 1 "WEGLD-bd4d79" "LP-1"]

theorem marketWith_rounds (e : ElasticEvent) :
    ((IndexerService.roundsQuery 10 11).pagination.slice
      (hits (IndexerService.roundsQuery 10 11) (marketWith e).rounds)).map
        RoundDocument.toElasticRound ≠ [] := by
  show ((IndexerService.roundsQuery 10 11).pagination.slice
    (hits (IndexerService.roundsQuery 10 11) market.rounds)).map RoundDocument.toElasticRound ≠ []
  decide +kernel

def marketWithRequest (e : ElasticEvent) : Request (marketWithEnv e) 10 11 :=
  request (marketWith e) [routerEntry] [oneDexPair 1 "WEGLD-bd4d79" "LP-1"] 10 11
    (marketWith_rounds e)

end Reference

section Market

open Reference

theorem noData_undecodable : Undecodable (marketWithEnv noData) (.xExchange, noData) :=
  .noData rfl

theorem cutDeposit_undecodable :
    Undecodable (marketWithEnv cutDeposit) (.oneDex, cutDeposit) :=
  .topicsMissing (by decide +kernel)

theorem cutSwap_undecodable : Undecodable (marketWithEnv cutSwap) (.oneDex, cutSwap) :=
  .topicsMissing (by decide +kernel)

/-- The deposit whose reserves are missing is reported with reserves of zero. -/
theorem getEvents_cutDeposit :
    ∃ events, getEvents (marketWithEnv cutDeposit) 10 11 = .ok events ∧ events.length = 3 ∧
      ∃ re ∈ events, re.txnId = "dd" ∧ re.fields.reserves = { asset0 := "0", asset1 := "0" } := by
  have hsummary : (getEvents (marketWithEnv cutDeposit) 10 11).toOption.map (fun events =>
      (events.length, events.any fun re => re.txnId == "dd" &&
        re.fields.reserves == { asset0 := "0", asset1 := "0" })) = some (3, true) := by
    decide +kernel
  obtain ⟨events, hevents, hsummary⟩ := Option.map_eq_some_iff.1 hsummary
  obtain ⟨hlength, hfields⟩ := Prod.mk.inj hsummary
  obtain ⟨re, hre, hfields⟩ := List.any_eq_true.1 hfields
  simp only [Bool.and_eq_true, beq_iff_eq] at hfields
  exact ⟨events, eq_ok_of_toOption hevents, hlength, re, hre, hfields⟩

end Market

end DexAdapter
