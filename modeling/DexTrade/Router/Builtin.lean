import DexTrade.Router.Table
/-!
# The table that is built in
-/
namespace DexTrade.RouterTable

def entry (bits : BitVec 160) (name : String) : RouterEntry :=
  ⟨⟨bits⟩, name⟩

def ethereum : ChainRouters where
  v2 := [entry 0x7a250d5630B4cF539739dF2C5dAcb4c659F2488D "Uniswap V2 Router02"]
  v3 :=
    [entry 0xE592427A0AEce92De3Edee1F18E0157C05861564 "Uniswap V3 SwapRouter",
      entry 0x68b3465833fb72A70ecDF485E0e4C7bD8665Fc45 "Uniswap V3 SwapRouter02"]
  universal :=
    [entry 0x3fC91A3afd70395Cd496C647d5a6CC9D4B2b7FAD "Uniswap Universal Router",
      entry 0xEf1c6E67703c7BD7107eed8303Fbe6EC2554BF6B "Uniswap Universal Router (legacy)"]

def base : ChainRouters where
  v2 := [entry 0x4752ba5DBc23f44D87826276BF6Fd6b1C372aD24 "Uniswap V2 Router02"]
  v3 :=
    [entry 0x2626664c2603336E57B271c5C0b26F421741e481 "Uniswap V3 SwapRouter02",
      entry 0x19ceead7105607cd444f5ad10dd51356436095a1 "Odos:Router V2"]
  universal :=
    [entry 0x3fC91A3afd70395Cd496C647d5a6CC9D4B2b7FAD "Uniswap Universal Router",
      entry 0x6fF5693b99212Da76ad316178a184AB56D299b43 "Uniswap Universal Router (v4)"]

/-- The routers known without a table of one's own. -/
def builtin : RouterTable :=
  ofChains [("ethereum", ethereum), ("base", base)]

end DexTrade.RouterTable
