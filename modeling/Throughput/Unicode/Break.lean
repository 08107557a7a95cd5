import Throughput.Unicode.Property

/-! Where a text can be divided: the classes of characters that the rules about the ends of
characters as a reader sees them, of words and of sentences speak of. -/

namespace Throughput.Unicode

def graphemeBreakRuns : List (List String × List String × List String) :=
  [(["cn", "control"], ["cc", "cf", "zl", "zp"],
     ["KBCBcgOGiHBbXBoUCdCBiuBCdJBdgrAJgjCBPBbwfyOBBjUjGfiM"]),
   (["cr"], [], ["NB"]),
   (["ex", "extend"], ["me", "mn"],
     ["drYBYBnUBYBdYBYBjABSCdZBYBePBPBfbHBbvQBgcVCdaoKChlEBYBnGBMBjHBbiMBcrtSBIFncAFbsxyUdS"]),
   (["l"], [], ["glKdScfoQbD"]),
   (["lf"], [], ["KB"]),
   (["lv"], [],
     ["cndOBbBBbBBbBBbBBbBBbBBbBBbBBbBBbBBbBBbBBbBBbBBbBBbBBbBBbBBbBBbBBbBBbBBbBBbBBbBBbBBbBBbBBb",
      "BBbBBbBBbBBbBBbBBbBBbBBbBBbBBbBBbBBbBBbBBbBBbBBbBBbBBbBBbBBbBBbBBbBBbBBbBBbBBbBBbBBbBBbBBb",
      "BBbBBbBBbBBbBBbBBbBBbBBbBBbBBbBBbBBbBBbBBbBBbBBbBBbBBbBBbBBbBBbBBbBBbBBbBBbBBbBBbBBbBBbBBb",
      "BBbBBbBBbBBbBBbBBbBBbBBbBBbBBbBBbBBbBBbBBbBBbBBbBBbBBbBBbBBbBBbBBbBBbBBbBBbBBbBBbBBbBBbBBb",
      "BBbBBbBBbBBbBBbBBbBBbBBbBBbBBbBBbBBbBBbBBbBBbBBbBBbBBbBBbBBbBBbBBbBBbBBbBBbBBbBBbBBbBBbBBb",
      "BBbBBbBBbBBbBBbBBbBBbBBbBBbBBbBBbBBbBBbBBbBBbBBbBBbBBbBBbBBbBBbBBbBBbBBbBBbBBbBBbBBbBBbBBb",
      "BBbBBbBBbBBbBBbBBbBBbBBbBBbBBbBBbBBbBBbBBbBBbBBbBBbBBbBBbBBbBBbBBbBBbBBbBBbBBbBBbBBbBBbBBb",
      "BBbBBbBBbBBbBBbBBbBBbBBbBBbBBbBBbBBbBBbBBbBBbBBbBBbBBbBBbBBbBBbBBbBBbBBbBBbBBbBBbBBbBBbBBb",
      "BBbBBbBBbBBbBBbBBbBBbBBbBBbBBbBBbBBbBBbBBbBBbBBbBBbBBbBBbBBbBBbBBbBBbBBbBBbBBbBBbBBbBBbBBb",
      "BBbBBbBBbBBbBBbBBbBBbBBbBBbBBbBBbBBbBBbBBbBBbBBbBBbBBbBBbBBbBBbBBbBBbBBbBBbBBbBBbBBbBBbBBb",
      "BBbBBbBBbBBbBBbBBbBBbBBbBBbBBbBBbBBbBBbBBbBBbBBbBBbBBbBBbBBbBBbBBbBBbBBbBBbBBbBBbBBbBBbBBb",
      "BBbBBbBBbBBbBBbBBbBBbBBbBBbBBbBBbBBbBBbBBbBBbBBbBBbBBbBBbBBbBBbBBbBBbBBbBBbBBbBBbBBbBBbBBb",
      "BBbBBbBBbBBbBBbBBbBBbBBbBBbBBbBBbBBbBBbBBbBBbBBbBBbBBbBBbBBbBBbBBbBBbBBbBBbBBbBBbBBbBBbBBb",
      "BBbBBbBBbBBbBBbBBbBBbBBbBBbBB"]),
   (["lvt"], [],
     ["cndPbBBbBBbBBbBBbBBbBBbBBbBBbBBbBBbBBbBBbBBbBBbBBbBBbBBbBBbBBbBBbBBbBBbBBbBBbBBbBBbBBbBBbB",
      "BbBBbBBbBBbBBbBBbBBbBBbBBbBBbBBbBBbBBbBBbBBbBBbBBbBBbBBbBBbBBbBBbBBbBBbBBbBBbBBbBBbBBbBBbB",
      "BbBBbBBbBBbBBbBBbBBbBBbBBbBBbBBbBBbBBbBBbBBbBBbBBbBBbBBbBBbBBbBBbBBbBBbBBbBBbBBbBBbBBbBBbB",
      "BbBBbBBbBBbBBbBBbBBbBBbBBbBBbBBbBBbBBbBBbBBbBBbBBbBBbBBbBBbBBbBBbBBbBBbBBbBBbBBbBBbBBbBBbB",
      "BbBBbBBbBBbBBbBBbBBbBBbBBbBBbBBbBBbBBbBBbBBbBBbBBbBBbBBbBBbBBbBBbBBbBBbBBbBBbBBbBBbBBbBBbB",
      "BbBBbBBbBBbBBbBBbBBbBBbBBbBBbBBbBBbBBbBBbBBbBBbBBbBBbBBbBBbBBbBBbBBbBBbBBbBBbBBbBBbBBbBBbB",
      "BbBBbBBbBBbBBbBBbBBbBBbBBbBBbBBbBBbBBbBBbBBbBBbBBbBBbBBbBBbBBbBBbBBbBBbBBbBBbBBbBBbBBbBBbB",
      "BbBBbBBbBBbBBbBBbBBbBBbBBbBBbBBbBBbBBbBBbBBbBBbBBbBBbBBbBBbBBbBBbBBbBBbBBbBBbBBbBBbBBbBBbB",
      "BbBBbBBbBBbBBbBBbBBbBBbBBbBBbBBbBBbBBbBBbBBbBBbBBbBBbBBbBBbBBbBBbBBbBBbBBbBBbBBbBBbBBbBBbB",
      "BbBBbBBbBBbBBbBBbBBbBBbBBbBBbBBbBBbBBbBBbBBbBBbBBbBBbBBbBBbBBbBBbBBbBBbBBbBBbBBbBBbBBbBBbB",
      "BbBBbBBbBBbBBbBBbBBbBBbBBbBBbBBbBBbBBbBBbBBbBBbBBbBBbBBbBBbBBbBBbBBbBBbBBbBBbBBbBBbBBbBBbB",
      "BbBBbBBbBBbBBbBBbBBbBBbBBbBBbBBbBBbBBbBBbBBbBBbBBbBBbBBbBBbBBbBBbBBbBBbBBbBBbBBbBBbBBbBBbB",
      "BbBBbBBbBBbBBbBBbBBbBBbBBbBBbBBbBBbBBbBBbBBbBBbBBbBBbBBbBBbBBbBBbBBbBBbBBbBBbBBbBBbBBbBBbB",
      "BbBBbBBbBBbBBbBBbBBbBBbBBbBBbB"]),
   (["pp", "prepend"], [], ["chCGiHBbXBoUCdCBbrNBdugKBPBjKCcvRBBBjOBcVGbaYBrBB"]),
   (["ri", "regionalindicator"], [], ["hgoKbA"]),
   (["sm", "spacingmark"], ["mc"],
     ["drYBYBnUBYBdYBYBjABSCdZBYBePBPBdFBeXBoLCLBbPDCHVBDGCBKDdsEBBCiABhyMCbuiDBBBbnrKBYBnGBMBjHB",
      "oECuGBcrtSBIF"]),
   (["t"], [], ["grWdKcwxNbX"]),
   (["v"], [], ["gpCcUcwzWX"]),
   (["zwj"], [], ["mdPB"])]

def wordBreakRuns : List (List String × List String × List String) :=
  [(["cr"], [], ["NB"]),
   (["dq", "doublequote"], [], ["bIB"]),
   (["ex", "extendnumlet"], ["pc"], ["meXB"]),
   (["extend"], ["mc", "me", "mn"], ["mdOBdgrHCdonZFbsxyUdS"]),
   (["fo", "format"], ["cf"], ["mdNDbzteGdS"]),
   (["hl", "hebrewletter"], [], ["cfGbBEEdovYBBKBNBFBBBCBCBK"]),
   (["ka", "katakana"], [], ["sgNFdXCDdNBEjGQiAbVBdKczhEcEcouCEBHBCBBlBDbYBOE"]),
   (["le", "aletter"], ["ll", "lm", "lo", "lt", "lu", "nl"],
     ["bbEEMGGCFHBBBRxEDBBbRBcRbBEFdbHbWBCMHcGCBBBFBYBBBKBCJBCFBBVElCbRUBQGEEDBDCHDENMBcqJcAbJBEB",
      "oHbECFLbSEbAdIcBdEBdvAcAefKCZJHFCDGdIGDBdMBEjGQtSjtOcMbfbKcrGPJCdZCwZFBKKFdTXDBDbYBBDCCFCB",
      "BBYDeVBbdkMoCCeCcPBBKBNBFBBBCBCBKboGcGiwEbBbLHbhpPjcAIbvQbQJnfREBHBCBlFPBbDDCBOEIpGxoMbAGb",
      "AGbAfmKclfCbGgdUGiOCinQOlbLepJuWcfYhhZFgfG"]),
   (["lf"], [], ["KB"]),
   (["mb", "midnumlet"], [], ["bUBmcFCKBdgdPBgYBGB"]),
   (["ml", "midletter"], [], ["cGBeUBbbRBsDBfSBjxYBdgbBBcNBhOB"]),
   (["mn", "midnum"], [], ["bSBOBbgCBuCBfACdQBpFBjfFBdfzVBDBcHBDBhBBOB"]),
   (["nl", "newline"], ["zl", "zp"], ["LCeQB"]),
   (["nu", "numeric"], ["nd"], ["clFB"]),
   (["ri", "regionalindicator"], [], ["hgoKbA"]),
   (["sq", "singlequote"], [], ["bNB"]),
   (["wsegspace"], ["zs"], ["gEBlxEBbNB"]),
   (["zwj"], [], ["mdPB"])]

def sentenceBreakRuns : List (List String × List String × List String) :=
  [(["at", "aterm"], [], ["bUBmcRBdgdPBhFB"]),
   (["cl", "close"], ["pe", "pf", "pi", "ps"], ["bIBEBovZGcnFCEDCBgqvYD"]),
   (["cr"], [], ["NB"]),
   (["ex", "extend"], ["mc", "me", "mn"], ["mdOCdgrGCbwmmYdS"]),
   (["fo", "format"], ["cf"], ["mdOCbzteGdS"]),
   (["le", "oletter"], ["lm", "lo", "nl"],
     ["gOBPBtHJHCbEFfTByIBecYbRBEejWbRCDeEcLNBbIbLbaNBNBQNhNbGeeECbugKCiCBeZDDCbhIEJBbfxCCczOBCDB",
      "bQBJddzHcK"]),
   (["lf"], [], ["KB"]),
   (["lo", "lower"], ["ll"],
     ["gOBPBtHJHCbEFfTBfbHbRBEepWcLNBbIbLbaNBNBQNiDQbgQbAcwOCbugKCiCBeZDDCbhIEJBbiwSBCDBbQBJddzHc",
      "K"]),
   (["nu", "numeric"], ["nd"], ["clFC"]),
   (["sc", "scontinue"], [], ["bSCMBbyOBgSCsWBgbXBFBdbECgaUBdaaWCBBbDCbDCDBCBKBgMCMBcVB"]),
   (["se", "sep"], ["zl", "zp"], ["fDB"]),
   (["sp"], ["zs"], ["JBBC"]),
   (["st", "sterm"], [],
     ["bHBbDBcaBBfRDgYBbRDjMBcJBBBDClHCcpWCbeKBECbdTBhQChWBFBmCCnQEgSCCCbDChGCcNCbkUCJDfgUBNBWCqN",
      "BbshWBkKCiTBDBoSCdICdRBfWCfRDfOCjPBbffMCgNBbDBcNBedWCbxDFbSEhHCeNEeXDeZCGBQCdKCBCeEBqBCoJC",
      "FPeBCjPDtXBBBjRCdJCqECbaQCcWCbcmBCfDBcNCLBbgTBbdoGBliMB"]),
   (["up", "upper"], ["lt", "lu"], ["kvGbRCDbtOQbgGbAgsiYbAGbAGbA"])]

def breakClass? (table : List (List String × List String × List String)) (name : String) :
    Option CharSet :=
  (table.find? fun entry => entry.1.contains name).map fun entry =>
    ofCategories entry.2.1 entry.2.2

end Throughput.Unicode
