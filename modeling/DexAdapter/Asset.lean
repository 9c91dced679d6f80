import DexAdapter.Entities
import DexAdapter.Lib.JsString

/-!
# Assets

`Asset.fromToken`: the asset of a token, with the ids of the token on two market sites, which are
parsed from the links of its social profile.
-/

namespace DexAdapter

structure Asset where
  id : String
  name : String
  symbol : String
  totalSupply : String
  circulatingSupply : String
  coinGeckoId : Option String
  coinMarketCapId : Option String
  deriving DecidableEq, Repr

/-- `token.assets?.social` -/
def Token.social (token : Token) : Option TokenSocial := token.assets.bind (·.social)

namespace Asset

def coinGeckoSite : String := "https://www.coingecko.com/en/coins/"
def coinMarketCapSite : String := "https://coinmarketcap.com/currencies/"

/-- `url.replace(site, '').split('/')[0]`, where a link that is missing or empty is falsy. -/
def marketId (site : String) (url : Option String) : Option String :=
  match url with
  | none => none
  | some url =>
    if url = "" then none
    else ((JsString.replace site.toList [] url.toList).splitOn '/')[0]?.map String.ofList

def fromToken (token : Token) (wegldIdentifier usdcIdentifier : String) : Asset :=
  let coinGeckoId := marketId coinGeckoSite (token.social.bind (·.coingecko))
  let coinMarketCapId := marketId coinMarketCapSite (token.social.bind (·.coinmarketcap))
  let symbol := token.ticker
  let symbol := if token.identifier = wegldIdentifier then "EGLD" else symbol
  let symbol := if token.identifier = usdcIdentifier then "USDC" else symbol
  { id := token.identifier
    name := token.name
    symbol := symbol
    totalSupply := token.supply
    circulatingSupply := token.circulatingSupply
    coinGeckoId := coinGeckoId
    coinMarketCapId := coinMarketCapId }

end Asset

end DexAdapter
