import Throughput.Unicode.CharSet

/-! The general categories of characters.

Every character has one category, named by two letters; some are also taken together under the
first of them. -/

namespace Throughput.Unicode

def categoryRuns : List (List String × List String) :=
  [(["cc", "control", "cntrl"], ["AbGdRbH"]),
   (["cf", "format"],
     ["gRBcaKGWBhKBbXBoUCdCBftJBdaQFbAFbXFBKdghJBjPDgiZBPBnkKQbzqUEhwXIbtkzMBbEdS"]),
   (["cn", "unassigned"],
     ["biECGEHBBBUBpHBbMCbYCDBcDIbBEGLkKBcICdXOcHCbXCPBbCCBBLFbIFjDBICCCWBHBBDECJCCCEIBECBFCZCDBG",
      "ECCWBHBCBCBCCBBFECCDDBHEBBHRKDBJBDBWBHBCBFCKBDBDCBPECMHHBDBICCCWBHBCBFCJCCCDHDECBFCSKCBGDD",
      "BEDCBBBCDCDDDMEFDDBECBGBOVFNBDBXBQCJBDBEHCBDBCCECKHWBDBXBKBFCJBDBEHCFDBECKBDMNBDBbZBDBGEQC",
      "bABDBSDYBJBBCHDBEGBBBIGKCDMcGEbDbLCBBBFBYBBBXCFBBBHBKCEbGcUBbKEbNBbKBPBNbLhQBBFBCoNBECHBBB",
      "ECbPBECbHBECHBBBECPBcFBECcPCbGDbAGdICGCzTDdLHWJYJUMNBDBCMdQCKGKGbAGdLHbRFcSKbFBMEMEBDbQCFL",
      "bSEbAGLDcKCcNBbDCLGKGOCbUCMUcZBgKIcIDPDcKFbRCLIbRFuOCGCbMCGCIBBBBBBBbFCcBBPBOCGBTCDBJBdXBM",
      "CbBBNDbIObHPfKEzQWLVcrSCoSFbTBBFBCcEHCOYJHBHBHBHBHBHBHBHBeWbIbABdLMiGbAdCBdICdZFbRBdQBdIJb",
      "WBbriRDcDJnKUhCIiNUcIDKGcEIcSIMGeMLbEDdABLEbHBcDJOCKCdZYbCKGCGCGJHBHBcIEeWCKGqnSMXEbXEnbAC",
      "eCbMHMFFbABFBBBCBCBzAbGbQGbZBTBEEFBfFCBBhIDGCGCGCDDHBHKFCMBbABTBCBPCObIeTFDEbTDdKBNDBbVbUf",
      "AbDDbXPbCEbKJbEFbRFbEBbLEObQgCCKGbKEbKEbOIcALMBPBHBCBLBPBHBCDcAMlZJWKIYGBbQBJcRGCBBbSBCDBC",
      "XBcUIJbWTBCFbHDbBFbBbMcEEUCbYBCFIBDBbDCDEKHJHcMbGbNEMJcCDbDCbBFbAHEMHdCcVcDbZNbZHbUIKGbMDb",
      "DICiAbFBbQBDCCQGIJbHbUIbQWbAbMbCUXJdAEbKJcQKBCZHKGcBBSIbNJdSBULSBbVcKHBBBEBPBLGcHFKGEBICCC",
      "WBHBCBFBKCCCDCBGBFHCHDFLKBBCBBbMBKBBCBBEBKBCICbDdOBFbEcUIKgKcCCbMbIcRLKGNTcGGKGUbCbBCPEXhD",
      "cIdWdFMICBCIBCBbEBCCMJKcSICbUCLbBcUIdFNcVHKdIIdKbIOKGJBbTBOKbDDbGCWBOcVHBCBbSDBBCBJIKGGBCB",
      "bLBCBGHKGbSEKjMZHRBbPDbDdHBPbYNbjNdYeHBFLhOdxKdVNbqSKfxRFwLkdDcGcoSvXHbFBKEdDBKGbECGKcSKKB",
      "HBVFTqQcGhQdNFZCZbScXEcFHRcMFLHJkxYbPbGdTeLmwREBHBCBlFPBbDDCBOEIpGdkUeDFNDJHKCIfvGjTDqUGXP",
      "RPbUCXJeMcIjMKbNChMVcSeSUMUMdJJZfFdHBcTBCCBCCCEBMBBBHBcNBECIBHBbCBEBFBBDHBnCClGCbbAPFBPbqM",
      "bFGGiFHBRCHBCBFFcKbHBeIbTDOCKECmIbFRcGFBrWbQiGbREBhKbFBWICiQHBEBCBPBhPCQbPcYEKECbeFcQcYcJh",
      "MEBbBBCBBCBBKBEBBBBGBEBBBBBBDBCBBCBBBBBBBBBBCBBCEBHBEBEBBBKBRFDBFBRcACkKbSEdWMPCPBPBbLKgSc",
      "EbDNbSEJHCOGfYblXDRDNDiKGMEBPMEcEIKGbOIbECMECOJbNnGIOCNDLDcFBBEQCMEKHfRBdZbnPclfCbGgmOCioC",
      "ClbLPxYdqWuWcfYhhZFmoObogoDBbEdSeYjGdsfOdsyOCdsyOC"]),
   (["co", "privateuse"], ["dgvOjmEcahxOdsyOCdsyO"]),
   (["ll", "lowercaseletter"],
     ["dTbAcGBbPYBIBBBBBBBBBBBBBBBBBBBBBBBBBBBBBBBBBBBBBBBBBBBBBBBBBBBBBBBCBBBBBBBBBBBBBBBCBBBBBB",
      "BBBBBBBBBBBBBBBBBBBBBBBBBBBBBBBBBBBBBBBBCBBBBDCBBBCBDCEBCBDDCBCBBBBBCBBCBBCBDBBBCCCDGBCBCB",
      "BBBBBBBBBBBBBBBCBBBBBBBBBBBBBBBBBCCBBBDBBBBBBBBBBBBBBBBBBBBBBBBBBBBBBBBBBBBBBBBBBBBBBBBBBB",
      "BBBBBBBHCBCCBBEBBBBBBBBcRCbAhLBBBDBDDSBbBbJBCDDBBBBBBBBBBBBBBBBBBBBBBBFBBCBCCbZbWBBBBBBBBB",
      "BBBBBBBBBBBBBBBBBBBBBBBBBJBBBBBBBBBBBBBBBBBBBBBBBBBBBBBBBBBBBBBBBBBBBBBBBBBBBBBCBBBBBBBBBB",
      "BBCBBBBBBBBBBBBBBBBBBBBBBBBBBBBBBBBBBBBBBBBBBBBBBBBBBBBBBBBBBBBBBBBBBBBBBBBBBBBBBBBBBBBBBB",
      "BBBBBBBBBbWbPehBbRCDbdGGdfUJBBeNbScLNBbIdYBBBBBBBBBBBBBBBBBBBBBBBBBBBBBBBBBBBBBBBBBBBBBBBB",
      "BBBBBBBBBBBBBBBBBBBBBBBBBBBBBBBBBBBBBBBBBBBBBBBBBBBBBBBBBBBBBBBBBBBBBBBBBBBBBBBBBBBBBBBBBB",
      "BBBBBBBBBBJBBBBBBBBBBBBBBBBBBBBBBBBBBBBBBBBBBBBBBBBBBBBBBBBBBBBBBBBBBBBBBBBBBBBBBBBBBBBBBB",
      "BBBBBBBBBBBBBBBBBBJIGKIIIIGKIIIIOCIIIIIIFBCGBDDBCIECCIIKDBCkOBDCDBbBBEBEBCCIEEBcBBebBbWBBD",
      "CBBBBBBEBBCBGFBBBBBBBBBBBBBBBBBBBBBBBBBBBBBBBBBBBBBBBBBBBBBBBBBBBBBBBBBBBBBBBBBBBBBBBBBBBB",
      "BBBBBBBBBBBBBBBBBBBBBBCHBBBEBMbMBBFBbtwDBBBBBBBBBBBBBBBBBBBBBBBBBBBBBBBBBBBBBBBBBBBBBTBBBB",
      "BBBBBBBBBBBBBBBBBBBBBBBfFBBBBBBBBBBBBDBBBBBBBBBBBBBBBBBBBBBBBBBBBBBBBBBBBBBBBBBBBBBBBBBBBB",
      "BBBBBBBBBBBIBBBBCBBBBBBBBBEBBBCBBDBBBBBBBBBBBBBBBBBBBBFBFBBBBBBBBBBBBBBBEBBBCBBBBBBBBBBBBB",
      "BBbABDBbfPbRFJHdCbeaIHMFboZbAbvHbOfGbKfZLBPBHBCcrBbZeVWegObGbgjWbGcHZbmjEbAbAHBSbAbAbAEBBB",
      "HBLbAbAbAbAbAbAbAbAbAbAbAbAbAbAbAbAbAbCbCZBGbAZBGbAZBGbAZBGbAZBGBBcsYKBUGGduDbI"]),
   (["lm", "modifierletter"],
     ["baMSEMOFHBBBfDBFBsKBiWBgICkJCEBbFBJBDBgEBgLBbvOBeXBvTBcpMBeDBxNBrWGgScLNBbIbLbaNBNBQNemXCj",
      "HBhJBsBBbRFFBdTCdPDbqbUBbwCGkKBeKBbCCeRJdCBXBeAEDCsBBWBfHBeEBVCdZEJBbfvIBbTCczOGBbQBJccXBb",
      "GBnDBfsLBbdiCEtODbOCvENcMCBBOCygAEBHBCsgNcKhTHbkFBuLBwPB"]),
   (["lo", "otherletter"],
     ["gOBPBjWBEEiACbfUbBEEbTbGBKbJCBdVBBYCKDCBQBBbEbDdLLBYbHVWbQZHLFYBHQbPcHcCDBSBHKQPEICCCWBHBB",
      "DEDBQBNCBDOCKBIGECCWBHBCBCBCbFEBBTDQJBDBWBHBCBFDBSBPCXBLICCCWBHBCBFDBbECBDPBRBBGDDBEDCBBBC",
      "DCDDDMWBcAIBDBXBQDBbADBCCCbEBEIBDBXBKBFDBbEDBCPCRJBDBbPCBQBFDIDYGFSDYBJBBCHcGbWBCMGcHCBBBF",
      "BYBBBKBCJBCFXEbGBcLIBbKbBFeLbRUBQGEEDBDCHDENMBeJmRBECHBBBECbPBECbHBECHBBBECPBcFBECcPbLQeJx",
      "WCRBbAFcXGIHSNTOSONBDPcAbOBcPbJBcBHFCbIBBFcSKbFbXbECFLbSEbAcCXJcBgUbVRIcCbENCKbSbAbKbPDKbE",
      "eJEBGBCDBbpQEenVcEYXJHBHBHBHBHBHBHBHvFBcBBEdIIBBdMEBFbRBdQRbGbWQtSjtOcMbfcFBbrZcPbOIkIEQKC",
      "cOBbXcSgNBdZBDHBDBEBXbDcAObYcKGDBBCLbCKXZbDHbVbTFCJKFBbPXDBIUQBGDBDbYBBDCCFCBBBYCDLHBOGCGC",
      "GJHBHfPbJbDqnSMXEbXmnCoCCeCcPBBKBNBFBBBCBCBeEbHnZScMCcCbOMeMFBfFeBKBbTCbFDGCGCGCDbJMBbABTB",
      "CBPCObIeToZbDDbXbVbGNUBIGbMKbECbKEIeYdAdUbOIcAdOcAMlZJWKIfWGCBBbSBCDBCXKXJbFcNTBCKWKbAGbAb",
      "McEGCcMBPEBDBbDbQbDDbDbJIBbCbBcCKWKTNSeGcVhBbKbMEBBlSbQGCQDBCcEbDKBIWbQSbUVbBXMcBcFCCBNbTb",
      "GZbAbKbDBCBIbJDBMbWOEVBBBbJSBZTCcLHBBBEBPBKHbVbMICCCWBHBCBFDBSBMFbEKBBCBBbMBBZBBBbScBSEUDb",
      "EbWUCBBhCbVbPEbKbWUBcHbRNBcTbBbLHhDbSiDICBCIBCBYPBBBdQICbNQBBBbCBKbOHBVBLbUTBScVhRbHbFJBbL",
      "RBbXbEeIHBCBbMVBZGBCBbGOBXbPBCkATPBBNBbIeUBdBbjMiWhOdxKdTPbpGRGZfxRFwLkdDbEcpUvXHbFRdBRbES",
      "bWbZVFTqTbOpPcXFBgTkxYbPbGdTeLmxHlFPBbDDCBOEIpGdkUeDFNDJHKnbCBtHbTbHBmJbESbSsQbBiVbECBhZbF",
      "BDBCBHCFJBiRHBEBCBPBhPbzNEBbBBCBBCBBKBEBBBBGBEBBBBBBDBCBBCBBBBBBBBBBCBBCEBHBEBEBBBKBRFDBFB",
      "RgoAclfCbGgmOCioCClbLPxYdqWuWcfYhhZFmoO"]),
   (["lt", "titlecaseletter"], ["rLBCBCBbMBlfHIIIIIMBPBbVB"]),
   (["lu", "uppercaseletter"],
     ["cNbAdXXBHbHBBBBBBBBBBBBBBBBBBBBBBBBBBBBBBBBBBBBBBBBBBBBBBBBBBBBBBBCBBBBBBBBBBBBBBBCBBBBBBB",
      "BBBBBBBBBBBBBBBBBBBBBBBBBBBBBBBBBBBBBBBCBBBBDCBBBCBDCEBCBDDCBCBBBBBCBBCBBCBDBBBCDBHBCBCBCB",
      "BBBBBBBBBBBBBBCBBBBBBBBBBBBBBBBBCBCBBDBBBBBBBBBBBBBBBBBBBBBBBBBBBBBBBBBBBBBBBBBBBBBBBBBBBB",
      "BBBBBBHCBCCBBEBBBBBBBBlDBBBDBIBGBBDBBBCBRBJbJBCDDBBBBBBBBBBBBBBBBBBBBBBBFBCBBCCbZbWBBBBBBB",
      "BBBBBBBBBBBBBBBBBBBBBBBBBBJBBBBBBBBBBBBBBBBBBBBBBBBBBBBBBBBBBBBBBBBBBBBBBBBBBBBBBCBBBBBBBB",
      "BBBBCBBBBBBBBBBBBBBBBBBBBBBBBBBBBBBBBBBBBBBBBBBBBBBBBBBBBBBBBBBBBBBBBBBBBBBBBBBBBBBBBBBBBB",
      "BBBBBBBBBBCbMehDbMBBFBbbUdIdgLBGbRCDmIBBBBBBBBBBBBBBBBBBBBBBBBBBBBBBBBBBBBBBBBBBBBBBBBBBBB",
      "BBBBBBBBBBBBBBBBBBBBBBBBBBBBBBBBBBBBBBBBBBBBBBBBBBBBBBBBBBBBBBBBBBBBBBBBBBBBBBBBBBBBBBBBBB",
      "BBBBBBBJBBBBBBBBBBBBBBBBBBBBBBBBBBBBBBBBBBBBBBBBBBBBBBBBBBBBBBBBBBBBBBBBBBBBBBBBBBBBBBBBBB",
      "BBBBBBBBBBBBBBBJIIGKIIIIGLBBBBBBBIIcUEMEMEMFLEkCBEBDDCDCBDFGBBBBBBECEKCFBcJBdzGbWbWBBDCBBB",
      "BBBEBBCBIDBBBBBBBBBBBBBBBBBBBBBBBBBBBBBBBBBBBBBBBBBBBBBBBBBBBBBBBBBBBBBBBBBBBBBBBBBBBBBBBB",
      "BBBBBBBBBBBBBBBBBBIBBBEBbtyJBBBBBBBBBBBBBBBBBBBBBBBBBBBBBBBBBBBBBBBBBBBBBTBBBBBBBBBBBBBBBB",
      "BBBBBBBBBBBfFBBBBBBBBBBBBBDBBBBBBBBBBBBBBBBBBBBBBBBBBBBBBBBBBBBBBBBBBBBBBBBBBBBBBBBBBBBBKB",
      "BBBCBBBBBBBBEBBBCBBBDBBBBBBBBBBBBBBBBBBBBFBFBBBBBBBBBBBBBBBEBBBCBBBBBBBBBBBBBBBBYBbhaHbAbu",
      "ZbOfGbKgALBPBHBCcqCbZgBWegObGbgjWbGcMZbmjFbAbAbAbAbAbABBCCBCCCEBIbAbAbACBECIBHbBCBEBFBBDHb",
      "BbAbAbAbAbAbAbAbAbAbAbAbEZbHZbHZbHZbHZbHBgnLbI"]),
   (["mc", "spacingmark"],
     ["dkTBcDBCDIEBCbYCcGDGCCCKBbRBcGDcOBcGDIBBCcBCcGBBBGCCCKBdYCBCDDBDKBbPDcJEcJCcGBBFCCBCJCbCBO",
      "CcGDFDBDKBbQCcXDGISCmSCcLBgPCEBGBCCZCKDCHVCCGCBKDclSBbEBeZBHIBCnIECDECBGiQCcGBBBJBBCIGfPBb",
      "WBFBBFBCcJBbEBECCBcIBCDBBDCbWIICgPBVBhhECbtlBCCBdKCbYQfMCbVBbWCECCDeGCCCYBbTBBBeFBCCFBjDCB",
      "CBCBBblxJBBBeXBbTDECeLBYCcHBbWDJCNBdPDDCBBgODbFCcGCBECCCDJBKCdGDHBCBBEBCBBdXDICDBeCDGBBECB",
      "jDDGECBeJDICBBeFBBCGBdZBBCEBkBDJBjNGBCEBCBBBfMDIEEBdGBbDCcKBhTBDBBBhRBOBeCBHBCBiFFECBBnMCM",
      "BbWCICBByyYDfjGcDeACbkxNCGG"]),
   (["me", "enclosingmark"], ["bsQCikQBciGEBDbyoXD"]),
   (["mn", "nonspacingmark"],
     ["bdOeIkPFkFbTBBBCBCBBcULbWVQBdXHCGCCBEbJBbEbBdNLcGJJBYEBJBDBFbRDcHJbQYBbGcDBBBEIEBDHKCbDBcG",
      "BEEIBUCbABCCcFBECECCDDBbECDBLCcFBEFBCEBUCWGBBcGBCBBEIBHCLCbEBcJBMBbYBDBcDBBDFDBEHCLCbDBcGB",
      "CBGBFCUCbCCcFCEEIBUCbDBcUBHDBBdMBCHMIdUBCJLHcVCbBBBBBBcDOBFBCFLBbKJBdYEBGBCCCZCEDQENBCCGBP",
      "BbbBDbkKDbDCbECbECcMCBHIBCLJBbTDBBeNCbIBeODECJBGDiLCCBcGBBHBBBBCIGKCBbWOBbFCMUEbWBBFBBFBbO",
      "JMCbGECCBDcEBBCDBBDcGICCfWDBNBHEBGBDChQcMbbSNEBDMeoCDfLBdSbGvIEeDCbsqEBEKbGCdCCkMBDBEBZCFB",
      "fVCbASNBbMIZLbUDbWBCECCbNBcPGCCCCMBIBbVBbZBBDCCFCBBbQCIBjEBCBEBbdzSBbcJQQQblLBiSBfTFcmGDBC",
      "FEbODEBgJCwBEcNFmFCcZGcSLbXEeTBcCPbPBCCKDbXECCHBcJDbKFBIcKBMCcAJKECBdRDCBBCGBCBgBBDIVCcFCD",
      "BbLHDFcSGNBBBBBOCdHICDBBXBdGGBBECBCjEEGCBCbBCdHICBBCeCBBBCGBBdXBBBCEBFjZJBCjWCBBEBfOECCEBb",
      "GKbOGCEIBJGCDbUNBChQBBDBBhTHBGBBdEWCHBCBCeSGDBBCBHBBcUCDBBBnJCLCcAFFBBBXBhxTBGPqyYMDDdsAFc",
      "HHboIBcLEdDBbdbKCgyZbUCXuYDRICHbEEfSDcyDcDEbYIBOBWFBPcaIHBRCHBCBFdWBgEHoLBcJEtOEjUCjJBCBHC",
      "FBsGHeFHbtciVjG"]),
   (["nd", "decimalnumber", "digit"],
     ["bWKciOKfEKhQKpWKeOKeOKeOKeOKeOKeOKeOKeOKeOKdSKeOKcSKkSKcSKctQKbMKlOKeYKgKKGKhAKdIKfEKGKcae",
      "OKbaCKbMKhQKWKdIKpQKbfmCKccKKdfYKGKbeQKeYKcIKfOKkSKnEKeOKoKKdYKGUcYKqGKdYKzMKdIKjMKcSKcCKn",
      "UKyyGKdmCKdIKfEKuOKbkdYKecQbYdnCKqGKtIKjNKbgVKhbAK"]),
   (["nl", "letternumber"], ["irUDdyTbJCEfmSBZJODbsyLKbifGcBrSBIBfEFmeSeHbcpPD"]),
   (["no", "othernumber"],
     ["gWCFBCDdmRGoMGeQDfDHiJHRJqRKbpLUbrVKsMBcmVBDGGKhQQbPBbbYcIdAWyGbEcbHBbtCEfIKbEIBPbGKbNPbsm",
      "IGbhqNbTcNERCnDbBbKEbzGIZHbNJcXFWGgECCQCbUcMJcACbEDcXFeAIYIbPHmSGnObFgCKbQEeIHfEUoPUbzXCqO",
      "JbhNTbgTVbcpQHbeSXblyFUMUeEZibUJbjTcHBDBEcYbTBPblAN"]),
   (["pc", "connectorpunctuation"], ["dRBmbVCTBdgaOCYDjFB"]),
   (["pd", "dashpunctuation"],
     ["bTBcaUBbZBfkJBbnPBdbDGfhXBCBbFCEBbCBrEBTBeHBczwACbLBKBgNBflOBmGB"]),
   (["pe", "closepunctuation"],
     ["bPBbZBbFBfpDBBBcuOBdrDBcDBPByKBBBbEBbpUBBBBBBBBBBBBBdCBbGBBBBBBBBBpOBBBBBBBBBBBBBBBBBBBBBc",
      "MBBBbHBboVBBBBBBBbSBBBBBBBqMBBBBBBBBBDBBBBBBBCCczrQBiJBbDBBBBBBBBBBBBBBBDBRBBBBBgOBbZBbFBC",
      "BCB"]),
   (["pf", "finalpunctuation"], ["hFBlwVBDBbCBffSBBBEBCBPBDB"]),
   (["pi", "initialpunctuation"], ["gPBlxKBCCCBZBffSBBBEBCBPBDB"]),
   (["po", "otherpunctuation"],
     ["bHDBDCBBBBCKCDCbBBcQBFBOCHBbbABIBrYGbPBcCBCBCBbSCUCBCNBBDcWEdYBbROiZDcCPbFBkBCKBfKBeQBeRBp",
      "ABMBoDBdMBKCgMPBBeIBcWFECeHGgPBxOJbdTBeUDcTCgBDBDbLGBEmBCiICeYHBGgECKHbCDeUEcHFcKCcMILBbgC",
      "CIIIJCECDDLBBBKeuCEBCeIBfNCEDCBCJBCBBCCKFBKCEBBBNCDqMDcFBhHBbryGCkJDdVBKBeLGoQEdICbODBBbXC",
      "bVBdTNQCeUEeWCQCjPBbfcUHCBWBUCCEDDBEHDGBBCfTDBDCBBBBCKCDCbBBbKBCCpUDzSBbWBpYBbcPBhRBbFBkMJ",
      "bMBeIHcOHdLEbfNBfCFbSEhHHeFCBEeWEbWCdBEEBNBBDdKGeDBlMCBCeKFKCBBeABjQXeBDbCNcYBfADjSBkEDfZB",
      "dOIdFDBFdPKiHBdRFbQCyVCcWNgTBbrSFejCCwdVCfDBcNFIBvGDlJEmPBbdbOBliLFeiTBbhEC"]),
   (["ps", "openpunctuation"],
     ["bOBbYBbFBfpEBBBcuOBdpMBDBbMBcDBPByKBBBbEBbpUBBBBBBBBBBBBBdCBbGBBBBBBBBBpOBBBBBBBBBBBBBBBBB",
      "BBBBcMBBBbHBboVBBBBBBBZBSBBBBBBBqMBBBBBBBBBDBBBBBBBCBczrTBiHBbDBBBBBBBBBBBBBBBDBRBBBBBgOBb",
      "YBbFBDBCB"]),
   (["sc", "currencysymbol"],
     ["bKBeVEbwJBeTBtECtECHBjLBkDBwJBdqPBdiIbIbzhUBbgmLBeEBfYBiLCDCmcSEcvxEBdrKB"]),
   (["sk", "modifiersymbol"],
     ["dQBBBcTBGBEBDBuBEMOFHBBBReNBOCbxIBiuMBBDLDNDNDNCghOCbsvRXJCdZCblOBOCbekKRbiHBBBgGBdolJF"]),
   (["sm", "mathsymbol"],
     ["bRBQDcJBBBbTBEBbLBbFBbdMBuHDjyHBNBbNDNDfJBbNFGBcQFFCEBCBCBHBbFCCBBBbFkIbGCdMBbEZbOGsBBJBcC",
      "IeHBmYFCbFKQjWfBWcLEbGCjYbWVCGdasQBbfSBBDgIBQDcJBBBfBBGEfeFCcvgABcyYBZBbFBZBbFBZBbFBZBbFBZ",
      "BiuECdtEJ"]),
   (["so", "othersymbol"],
     ["gKBCBEBBBblPBkGCeXChYBKBTCjNBtVBoJBfAGBBfCBhZBbPBpBDPBBDCGUBBBBBfDIBGBCFEhPCbcYKbbVBbbUBgB",
      "bInPKJJccHCBEBCKBBCGGBBBBBBEBLCOBBCBBcGCJFCEBCBCBHBbFCCBBBbFkIIEUCHCdDBbEZbOGcUWLdDdAWhBBJ",
      "BcCIeHBjObSbScMjWtSbWVCGbNCfIiVGnTCbUbABdLMiGbAQEBNCMBVCGCmYCEKbGbMJBQbFLbEIBPbGKbNPmIjtOc",
      "MbguIcDbhHEKCBBwBDbeuJQoBQcMCcCIbTDsQBDBECNCmBJcFRCDBNDBbVbTclUCwTBbnSIdeSBdgNIERbcnIEFBbe",
      "uWBfvNjGKDDqUGXPQdSeMcIjMKbNCcIFDWCHbEEcJVcODBhEdJbtXtScDEbYIBOBCcoUBehWBeZBbbTbSEdWMPCPBP",
      "BbLXgFcEbDNbSEJHCOGfYjRFbcBDRDNDiKGMEBPMEcEIKGbOIbECMECcKnGIOCNDLDcFBBEQCMEKHfRBdOKB"]),
   (["zl", "lineseparator"], ["meQB"]),
   (["zp", "paragraphseparator"], ["meRB"]),
   (["zs", "spaceseparator"], ["bGBeXBihJBdpNLbKBbVBfxWB"])]

/-- Categories that are taken together, by their names; surrogates are no characters. -/
def categoryGroups : List (List String × List String) :=
  [(["l", "letter"], ["ll", "lm", "lo", "lt", "lu"]),
   (["lc", "casedletter"], ["ll", "lt", "lu"]),
   (["m", "mark", "combiningmark"], ["mc", "me", "mn"]),
   (["n", "number"], ["nd", "nl", "no"]),
   (["p", "punctuation", "punct"], ["pc", "pd", "pe", "pf", "pi", "po", "ps"]),
   (["s", "symbol"], ["sc", "sk", "sm", "so"]),
   (["z", "separator"], ["zl", "zp", "zs"]),
   (["c", "other"], ["cc", "cf", "cn", "co"])]

def surrogateNames : List String := ["cs", "surrogate"]

def category? (name : String) : Option CharSet :=
  (categoryRuns.find? fun entry => entry.1.contains name).map fun entry => .ofRuns entry.2

def categories (names : List String) : CharSet :=
  names.foldl (fun set name => set.union ((category? name).getD .empty)) .empty

def generalCategory? (name : String) : Option CharSet :=
  match name with
  | "any" => some .all
  | "assigned" => (category? "cn").map CharSet.complement
  | "ascii" => some (.range 0 0x7F)
  | _ =>
    match categoryGroups.find? fun entry => entry.1.contains name with
    | some entry => some (categories entry.2)
    | none => category? name

end Throughput.Unicode
