import Throughput.Unicode.Category

/-! Properties that a character has or has not. -/

namespace Throughput.Unicode

def ofCategories (names : List String) (exceptions : List String) : CharSet :=
  (categories names).symmetricDifference (.ofRuns exceptions)

def propertyRuns : List (List String × List String × List String) :=
  [(["ahex", "asciihexdigit"], [], ["bWKHGbAG"]),
   (["alpha", "alphabetic"], ["ll", "lm", "lo", "lt", "lu", "nl"],
     ["bgFBbDNwEOBBBCBCBBcULbWNBHQBdXHEECCEBbJBbEQdYLdXCDJBDBEeCBcIMDHGUcCCCPBCFDKCbDDcGHCCCCKBKC",
      "bDDcGFECCCEBbECDBLDcGIBDBCVCWDEDcGHCCCCJCKCbEBcHFDDBDKBbOFcFHBDBDICLCbDDcGHBDBDICLCPBMEcGH",
      "BDBDKBKCbDDcXGBBBISCcJBCHSBdVBCGBCQBgHTJLBbKeGMBBCEXEEDBDCHDENMBBKEclOCbECbECbECcOThGCbIBe",
      "OMEJiOFcFKCUcWCLDbXFbWPcIDbEJCCcFLbYTpWbIcoNcAdkGbGbtqAIbICnQBIBXFdKCbYQBBcFBbMFbCMbTEbWMb",
      "LBcPOMBICbTDbYBBDCCFBbSFFBjDIbdzVBdeDFcmGDBCFEbeIEcNBmJCcZDjZDcBObTCLDbTJJBcJDbKMSCcFDbWNO",
      "CdOJCBGBCBgBKXEcGHCCCCKBKCdGJBBCBBEBCdZNBDeCSjDHCHbDCdEPBBeCLdZOjXNjNGBCCCDBBBfMHCGEBbCKbQ",
      "FBESLbUOhSIhRIBHdFWBOeSGDBBCBDBBDBcOFBCBEnKEJCBBbWHDDyyNRfjCBBcDHEdPCbdaYBnkJHBRCHBCBFdWBc",
      "kHBCBHCFBwVBczWbAGbAGbA"]),
   (["bidic", "bidicontrol"], [], ["ciEBjvLCbAFcDE"]),
   (["bidim", "bidimirrored"], ["pe", "pf", "pi", "ps"],
     ["cIBBBmbPIlCBhKEDGDBDCDEBEBBBBEJFBBSFEJCBBBIBbGCEFBJCCTFCJFCCEYCQbGCbtMBCCDCBDFEFDDEqVGBOIB",
      "HGDBEFBCGBEBBDCCKGQTBECBBBCBBEFCGDYCLCEEBCCCEbRCIBbOFBBBDFFDEBDFBBjWBwHBsGDczrQCiHCbCQCCbB",
      "ChABBBddsEBcFBcFBcFBcFB"]),
   (["ci", "caseignorable"], ["cf", "lm", "me", "mn", "sk"],
     ["bNBGBLBeUBbbRBsDBfSBjxJCKBCBdgbBBcKBCBgVBGBLB"]),
   (["cased"], ["ll", "lt", "lu"],
     ["gOBPBtHJHCbEFdSBcABfcZBepZcLNBbIbLbaNBNBQNhNbGbfQcAcwOCbugKCiCBeYEDCbhIEJBbiwSBCDBbQBJddzH",
      "cKgjAbAGbAGbA"]),
   (["cwcf", "changeswhencasefolded"], ["lt", "lu"],
     ["gZBbPBeBBcBBrLBeUBNHZCDBpLBfiUdICGdfUJuJCiUIIIIIKDCBKDCBbQDCBkGBEBDDCDCBDFGBDBDCCCBBKCFBbA",
      "QbgGbAbyzOdCbeaIHMFdedSbAbAbAbAbAbABBCCBCCCEBIbAbAbACBECIBHbBCBEBFBBDHbBbAbAbAbAbAbAbAbAbA",
      "bAbAbEZbHZbHZbHZbHZbHB"]),
   (["cwcm", "changeswhencasemapped"], ["ll", "lt", "lu"],
     ["mABdGBbCCOBDBdUBSGbBBCBBBCDCBEBFCBBCCBHBCBBCDGFBBCHCRfTBfKDbNBnRBbNBixBbScLNCDBQBMjXCBBxMB",
      "EBCKBBDFGBDBDCBDBCEBCEFFWbGbfQcAcwDBCBCFeABbuiDCcLIVBGBZBcWBbfPbJBHFJeiiHdHBcTBCCBCCCEBMBB",
      "BHBcNBECIBHBbCBEBFBBDHBnCCZBZBbFBZBbFBZBbFBZBbFBZBIcsYKBUGG"]),
   (["cwl", "changeswhenlowercased"], ["lt", "lu"],
     ["blQDlbHBEBDDCDCBDFGBDBDCCCBBKCFBbAQbgGbAghhObAbAbAbAbAbABBCCBCCCEBIbAbAbACBECIBHbBCBEBFBBD",
      "HbBbAbAbAbAbAbAbAbAbAbAbAbEZbHZbHZbHZbHZbHB"]),
   (["cwt", "changeswhentitlecased"], ["ll"],
     ["mABdGBbCCOBDBFBCBCBbMBbVBSGbBBCBBBCDCBEBFCBBCCBHBCBBCDGFBBCHCRfTBhABnRBbNBehBbRCDeoEbScLNC",
      "DBQBMjXCBBxUBDCDBbBBEBEBCCIEbMQbgQbAcwDBCBCFeABbuiDCcLIVBGBZBcWBbfPbJBHFJeijHbAbAHBSbAbAbA",
      "EBBBHBLbAbAbAbAbAbAbAbAbAbAbAbAbAbAbAbAbAbCbCZBGbAZBGbAZBGbAZBGbAZBGBBcsYKBUGG"]),
   (["cwu", "changeswhenuppercased"], ["ll", "lt"],
     ["mABdGBbCCOBDBdUBSGbBBCBBBCDCBEBFCBBCCBHBCBBCDGFBBCHCRfTBhABnRBbNBixBbScLNCDBQBMjXCBBxUBDCD",
      "BbBBEBEBCCIEbMQbgQbAcwDBCBCFeABbuiDCcLIVBGBZBcWBbfPbJBHFJeijHbAbAHBSbAbAbAEBBBHBLbAbAbAbAb",
      "AbAbAbAbAbAbAbAbAbAbAbAbAbCbCZBGbAZBGbAZBGbAZBGbAZBGBBcsYKBUGG"]),
   (["dash"], ["pd"], ["mgHBbNBPBpAB"]),
   (["di", "defaultignorablecodepoint"], [],
     ["gRBzXBbbOBegWCckHCdHFdaPFbAFbXQgkYBczmPQjFBgEBdBJctlNEhwXIbtkzLgbO"]),
   (["dep", "deprecated"], [], ["mRBbyVBdkTBBBdcJCdiJGbaVCbzryKB"]),
   (["dia", "diacritic"], ["sk"],
     ["hBBtKSEMOFHBBBRdBBIFGRBFBkEFiBBcDbTBBBCBCBBfBIECfECECDDcPbBdNLcGLbICeGBPIbPKQbCcJBQBDEbCBc",
      "WBQBeGBQBeGBQBbVDcIBQBHBePBeGBQBeGBQBeFCQBeUBeHBMGBBeDBNFcXCbBBBBBBECcODBCcKBeIBBCbOCEFZHB",
      "BKCbbDDbkMCbEBfSLJBnJDlGBUICBbWPCLDPCMcUBPBbMJcCCcGBLCcOCcMGdEZEBGBCDbYcLbWbKFMbLLfrBDmFBt",
      "MGeBCdTBbsmKBMCBBbCCdECbLJeABeABGCMBbLBfVBbBScFEbKBdRBMBbKBfTDcNEbZBdXEJBfACbdzSBfRRxHQmIB",
      "bTCbgABbtNGBbQBJyNDEBgJCvZGbMBbAFpGBCDcSLbXEhKBbPBcUCeQCcKBcYBJDeACgWCdCCQBYHDFdLDBCNCdRBD",
      "BeTCjRCeWBeOCeLBkJCjYCEBgABdFBSBdDBqFBjYBBCdDBcNBnVCXBhyAPqzPBdsAFcHHvSCvARdCCygCEBHBCltHb",
      "UCXuYDDGIICHbEEfmWcKhMHoLBcJEbdMCbcIHeFDBDebGF"]),
   (["emoji"], [],
     ["bJBGBFKeHBEBlyRBMBiIBWBdMGPCoDCMBgKBZLEDhRBiXCKBJBcGEBFJBCBCCCBEBCBBCCBDBDCIDFBBBFMLCCBBCB",
      "BSBCCSGBBBCDCFBCCECLCFCCBFCBBBCUCFGBECBEBCBCGBBCBBBBBGBDBGBKCPBCBEBBBEDBBLCbWDJBOBOBoICrVD",
      "TCbZBEBbvUBMBxDBBBgmrQBhUBgECMCOBCKcXbABCXBUBCJVCgSbICeICCBDCdFCDBkDBcLLGBYHCCIMBCECBECNCC",
      "BICJBFDMDIDCBBBEBGBDBGdIbWcSFICEDKDBBCDBCKiTMEBkXbVBKBhDeINDLDcFBBEQCMEK"]),
   (["ecomp", "emojicomponent"], [], ["bJBGBFKmbJBiFBdftRBdoiWbAtNFceAEbsvuQdS"]),
   (["emod", "emojimodifier"], [], ["hhiXF"]),
   (["ebase", "emojimodifierbase"], [],
     ["olHBiLBQEgsjVBcIDCBCDeNCCLVTDBEDBDHBBBYBhTCEBVBECgSDDFdFBQDJBLBwDBCBIIGBJKCDcEBcJCBCBBRDBN",
      "iVDbQJ"]),
   (["epres", "emojipresentation"], [],
     ["nhQChXEDBCBuBCVCbYMbRBTBNBICRCFCIBFBVBHCBBEBCBHBECbCBbJBBBEDBBcJDYBOBbhBCbZBEBgplEBhUBhIBC",
      "KcXbABBYBUBCFBDVCgSbHMJBcSBWMbREFMRDBDcTBBBhFCcLNEBYSBbACNBdIdHbWcSGBDDCEDELCHJiTMEBkXbVBK",
      "BhDeINDLDcFBBEQCMEK"]),
   (["extpict", "extendedpictographic"], [],
     ["gNBEBlyRBMBiIBWBdMGPCoDCMBgKBZLEDhRBiXCKBJBcGEBFJBCBCCCBEBCBBCCBDBDCIDFBBBFMLCCBBCBBSBCCSG",
      "BBBCDCFBCCECLCFCCBFCBBBCUCFGBECBEBCBCGBBCBBBBBGBDBGBKCPBCBEBBBEDBBLCbWDJBOBOBoICrVDTCbZBEB",
      "bvUBMBxDBBBgmrQBbNEdWMPCPBOCbLKeICMCOBCKTcEbBPKBUBCJBEJXGhGCeICCBDCdFCDBEFjUBcLLGBYHCCIMBC",
      "ECBECNCCBICJBFDMDIDCBBBEBGBDBGdIbWcSFICRDBBGCNiKbMMEcEIKGbOIbECMECOJbNMbVBKBhDdKIOfQjWbnI"]),
   (["ext", "extender"], [],
     ["hBBuQCbhUBqZByGBfHBdLBbcYBeXBdnFBcEBxNBpIBcQBhkJBbRFdZCdPDbqbUBcgSBblABWBfHBeEBVCbfzVBdbKC",
      "cfBBbBBEBbvBBlHBeMCtEDbvJBbgABbdiECbtKCBBOCbqxKCbuFBbgUD"]),
   (["grbase", "graphemebase"],
     ["ll", "lm", "lo", "lt", "lu", "mc", "nd", "nl", "no", "pc", "pd", "pe", "pf", "pi", "po",
      "ps", "sc", "sk", "sm", "so", "zs"],
     ["drYBYBnUBYBdYBYBiYBBBECBCJCdZBYBePBPBdmRBbEBbnKBFBBBFCdXBcTChrECbtwTBeEBbgnLCgwMBeMBkEBOBJ",
      "BdSBJBCBBDFBiQBMBjHBkCByJBMBchFBbeoKCbkxNCGG"]),
   (["grext", "graphemeextend"], ["me", "mn"],
     ["drYBYBnUBYBdYBYBiYBBBECBCJCdZBYBePBPBdmRBbEBbnKBFBBBFCdXBcTCboIBgcVCbtwTBeEBbgnLCgwMBeMBkE",
      "BOBJBdSBJBCBBDFBiQBMBjHBkCByJBMBchFBbeoKCbkxNCGGbtlaZdS"]),
   (["hex", "hexdigit"], [], ["bWKHGbAGdslLKHGbAG"]),
   (["hyphen"], [], ["bTBeXBbvWBgzZBdbDCfiBBbcLBczuLBgNBdJB"]),
   (["idsb", "idsbinaryoperator"], [], ["seACCKtDB"]),
   (["idst", "idstrinaryoperator"], [], ["seCC"]),
   (["idc", "idcontinue"], ["ll", "lm", "lo", "lt", "lu", "mc", "mn", "nd", "nl", "pc"],
     ["hBBbbRBgaJJclCBciZCkGBVBeyABxVCdQBdaeJB"]),
   (["ids", "idstart"], ["ll", "lm", "lo", "lt", "lu", "nl"], ["jhLCdgJBVBeyABxVC"]),
   (["ideo", "ideographic"], [],
     ["seWCZJODblDjtOcMbfbKbhsIoCCeCbsiKBNFJkxYbPbGdTeLnlLpGbdeIclfCbGgmOCioCClbLPxYdqWuWcfYhhZFm",
      "oO"]),
   (["joinc", "joincontrol"], [], ["mdOC"]),
   (["loe", "logicalorderexception"], [], ["fkIFeTFedSDCBccxMCCBBC"]),
   (["lower", "lowercase"], ["ll"],
     ["gOBPBtHJHCbEFdSBcABfcZBepZcLNBbIbLbaNBNBQNiDQbgQbAcwOCbugKCiCBeYEDCbhIEJBbiwSBCDBbQBJddzHc",
      "K"]),
   (["math"], ["sm"],
     ["dQBbhXDCBbACCCkqYBbBDLBbGEYCOCcNNEBDCEFSBEBCKBBDFGBDCCCBDBGDEFFcXFCEBCBCBBBFCCECESCCBBBHBB",
      "GClEEgMCBBYBRBrDCMJFFFCCCDFOBBBCGYCcFBBBbDEJCnECbFKpNWcLEbGCdclFBBBEBiDBBBdcoVdHBcTBCCBCCC",
      "EBMBBBHBcNBECIBHBbCBEBFBBDHBnCCZBZBbFBZBbFBZBbFBZBbFBZBICbYiiQEBbBBCBBCBBKBEBBBBGBEBBBBBBD",
      "BCBBCBBBBBBBBBBCBBCEBHBEBEBBBKBRFDBFBR"]),
   (["nchar", "noncharactercodepoint"], ["co"],
     ["dgvOjmEbvKbGuGCdsyOCdsyOCdsyOCdsyOCdsyOCdsyOCdsyOCdsyOCdsyOCdsyOCdsyOCdsyOCdsyOCdsyOhlxI"]),
   (["patsyn", "patternsyntax"], [],
     ["bHPKHbAEBBbAEbIHBBBCBBBCEBEBDBXBbFBluEYIPCTBKlTbbSgEyGbEbrOtSeYoVDEZPBczqZCkBC"]),
   (["patws", "patternwhitespace"], ["zl", "zp"], ["JFSBdWBlyMC"]),
   (["pcm", "prependedconcatenationmark"], [], ["chCGiHBbXBoUCdCBdvxYBPB"]),
   (["qmark", "quotationmark"], [], ["bIBEBfBBPBlwUIZCfiDBrPENDdabPEhHBEBdMC"]),
   (["radical"], [], ["rpWbABdLMiG"]),
   (["ri", "regionalindicator"], [], ["hgoKbA"]),
   (["sterm", "sentenceterminal"], [],
     ["bHBMBQBcaBBfRDgYBbRDjMBcJBBBDClHCcpWCbeKBECbdTBhQCgBCbTBFBmCCnQEgGCKCCCbDDhFCcNCbjWBXCJDeu",
      "XDlUBNBWCqNBbshWBkKCiTBDBoSCdICdRBfWCfRDfOCjPBbfcWBCCcHBDCgNBMBQBcNBedWCbxDFbSEhHCeNEeXDeZ",
      "CGBQCdKCBCeEBlMCeNCoJCFPeBCjPDtXBBBjRCdJCqECbaQCcWCbcmBCfDBcNCLBvHClKBbdoGBliMB"]),
   (["sd", "softdotted"], [],
     ["eBChOBkVBbEBcABUBmIBdUBBBjmNBbZBNBDBfCBgBBqFBiGCegGBgelHCbYCbYCbYCbYCbYCbYCbYCbYCbYCbYCbYC",
      "bYCdfYBlTCbAB"]),
   (["term", "terminalpunctuation"], [],
     ["bHBKBBBLCDBbfYBIBtTBcFBcUBOBBDgYBbRLBBjBCcCGBIbFBkBCbwUCgQBEGlZCbeJIbdTBeUDcTCgBDDBbNECCmC",
      "CnQEgGCKCBDbDDhFFcKCbjWBXCJDeuXDlUBNBEBKBBCDCqMCbshVCkJDiTFoSCdICdRBfVDfRDeXBQCjPBbfcWBCCc",
      "FDBEgNBKBBBLCDBcNBCBbpQBbWBbsOBhRBlYCfWGcQGdLEbkQFbSEhHHeIEeXDeZCGBQCdKFeEBlMCeNDMCnUEDPeB",
      "CjPDtXBBBjRCdJCECpYDbTByVCcWCbyXFbamZCfDBcNDKBvHClJCbdoGBliLE"]),
   (["uideo", "unifiedideograph"], [],
     ["tsAjtOcMbfbKbicSCBBBCKBBBBCCDdveCclfCbGgmOCioCClbLPxYgrQhhZFmoO"]),
   (["upper", "uppercase"], ["lu"], ["mqQQbgGbAgsiYbAGbAGbA"]),
   (["vs", "variationselector"], [], ["jcTDBBdjcAQbwnkYjG"]),
   (["wspace", "whitespace", "space"], ["zl", "zp", "zs"], ["JFePB"]),
   (["xidc", "xidcontinue"], ["ll", "lm", "lo", "lt", "lu", "mc", "mn", "nd", "nl", "pc"],
     ["hBBbbEBMBgaJJclCBciZCkGBVBeyABbbNBczaOGpQCeMBBBBBBBBBBBBBBBiWB"]),
   (["xids", "xidstart"], ["ll", "lm", "lo", "lt", "lu", "nl"],
     ["biGBebOBeXBdsRCdgJBVBeyABdacCGpQCeMBBBBBBBBBBBBBBBlBC"])]

def property? (name : String) : Option CharSet :=
  (propertyRuns.find? fun entry => entry.1.contains name).map fun entry =>
    ofCategories entry.2.1 entry.2.2

/-- The characters of words: letters, marks, decimal digits, connectors and joiners. -/
def wordCharacters : CharSet :=
  ["alphabetic", "joincontrol"].foldl (fun set name => set.union ((property? name).getD .empty))
    (categories ["mc", "me", "mn", "nd", "pc"])

def letters : CharSet := (property? "alphabetic").getD .empty

def lettersAndNumbers : CharSet := letters.union (categories ["nd", "nl", "no"])

def digits : CharSet := categories ["nd"]

def blanks : CharSet := (property? "whitespace").getD .empty

end Throughput.Unicode
