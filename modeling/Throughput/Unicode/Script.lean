import Throughput.Unicode.CharSet

/-! The scripts of characters.

A character that is written in several scripts belongs to none of them or to a common one; the
extensions of a script hold it all the same. -/

namespace Throughput.Unicode

def scriptRuns : List (List String × List String) :=
  [(["adlm", "adlam"], ["hdeUcYEKEC"]),
   (["aghb", "caucasianalbanian"], ["duxScALB"]),
   (["ahom"], ["ebrCbBCPEX"]),
   (["arab", "arabic"],
     ["chCFBGBOBDBbGBKLbABeEBbIdCbWjGbIFcXBbDdntWtACfObGQeIFBfFfvNbFcPGIJbHGdglSEBbBBCBBCBBKBEBBB",
      "BGBEBBBBBBDBCBBCBBBBBBBBBBCBBCEBHBEBEBBBKBRFDBFBRcAC"]),
   (["armi", "imperialaramaic"], ["dwbWWBJ"]),
   (["armn", "armenian"], ["bzDbMCbYCDdozJF"]),
   (["avst", "avestan"], ["dxcYcCDH"]),
   (["bali", "balinese"], ["kfWcZBbY"]),
   (["bamu", "bamum"], ["clcQdKcvcQvX"]),
   (["bass", "bassavah"], ["fhkIbECG"]),
   (["batk", "batak"], ["knGcAIE"]),
   (["beng", "bengali"], ["dpOEBICCCWBHBBDECJCCCEIBECBFCZ"]),
   (["berf", "beriaerfe"], ["fivWZCZ"]),
   (["bhks", "bhaiksuki"], ["edoIJBbTBOKbD"]),
   (["bopo", "bopomofo"], ["bcSCrlXbReIbG"]),
   (["brah", "brahmi"], ["dzaEdAEbKJB"]),
   (["brai", "braille"], ["pdWjW"]),
   (["bugi", "buginese"], ["jwAbCCC"]),
   (["buhd", "buhid"], ["iuYU"]),
   (["cakm", "chakma"], ["dzkAcBBS"]),
   (["cans", "canadianaboriginal"], ["hoYyQvOcSdtpQQ"]),
   (["cari", "carian"], ["dtyMbX"]),
   (["cham"], ["cmjWcDJOCKCE"]),
   (["cher", "cherokee"], ["hlGdICGcfjEdC"]),
   (["chrs", "chorasmian"], ["dyxCbC"]),
   (["copt", "coptic", "qaac"], ["bmGOpjKeMFH"]),
   (["cpmn", "cyprominoan"], ["ekyYdV"]),
   (["cprt", "cypriot"], ["dvzKGCBBbSBCDBCB"]),
   (["cyrl", "cyrillic"], ["bnKfDCgNivOLgEBcYBgfNbGbtoAdSbheCCdhpGcKbHB"]),
   (["deva", "devanagari"], ["dkQdDEPCbAcijGbGbreMK"]),
   (["diak", "divesakuru"], ["eckUHCBCIBCBbEBCCMJK"]),
   (["dogr", "dogra"], ["ecaYcI"]),
   (["dsrt", "deseret"], ["dumAdC"]),
   (["dupl", "duployan"], ["gmdSeDFNDJHKCE"]),
   (["egyp", "egyptianhieroglyphs"], ["eldGbqSKfxR"]),
   (["elba", "elbasan"], ["duvWbO"]),
   (["elym", "elymaic"], ["dyyYX"]),
   (["ethi", "ethiopic"],
     ["gvGcVBECHBBBECbPBECbHBECHBBBECPBcFBECcPCbGDbAjvAXJHBHBHBHBHBHBHBHbvkCGCGCGJHBHepyFHBEBCBP"]),
   (["gara", "garay"], ["dxzCbMDbDIC"]),
   (["geor", "georgian"], ["ghSbMBBFBCbRBEejWbRCDgeAbMBBFB"]),
   (["glag", "glagolitic"], ["qrGdSgizGHBRCHBCBF"]),
   (["gong", "gunjalagondi"], ["eebWGBCBbLBCBGHK"]),
   (["gonm", "masaramgondi"], ["edyEHBCBbSDBBCBJIK"]),
   (["goth", "gothic"], ["dueAbB"]),
   (["gran", "grantha"], ["eadSEBICCCWBHBCBFCJCCCDCBGBFHCHDF"]),
   (["grek", "greek"],
     ["bhWEBDCEBBEBBBBDBBBUBcLOQjnQFbYFEFdGBmIWCGCbMCGCIBBBBBBBbFCcBBPBOCGBTCDBJlJBcajEBbgnIdBRBd",
      "axRcS"]),
   (["gujr", "gujarati"], ["dzLDBJBDBWBHBCBFCKBDBDCBPECMHH"]),
   (["gukh", "gurungkhema"], ["fdrScG"]),
   (["guru", "gurmukhi"], ["duNDBGECCWBHBCBCBCCBBFECCDDBHEBBHR"]),
   (["hang", "hangul"], ["glKjWllECjXdQeJbFcNbFbtaNbDyTqnSMXEbXpaIbFDGCGCGCD"]),
   (["hani", "han"],
     ["rpWbABdLMiGbVBBBZJOEblCjtOcMbfbKbhsIoCCeCbsiICMHccoFclfCbGgmOCioCClbLPxYdqWuWcfYhhZFmoO"]),
   (["hano", "hanunoo"], ["itSV"]),
   (["hatr", "hatran"], ["dwiATBCFF"]),
   (["hebr", "hebrew"], ["ccVcDIbBEGdovWbABFBBBCBCBK"]),
   (["hira", "hiragana"], ["shDdIGDfpeVlBSBbDDymVB"]),
   (["hluw", "anatolianhieroglyphs"], ["essEwL"]),
   (["hmng", "pahawhhmong"], ["fhmEcSKKBHBVFT"]),
   (["hmnp", "nyiakengpuachuehmong"], ["haeAbTDOCKEC"]),
   (["hung", "oldhungarian"], ["dxrSbZNbZHG"]),
   (["ital", "olditalic"], ["ducEbKJD"]),
   (["java", "javanese"], ["cmeYdACKEC"]),
   (["kali", "kayahli"], ["cmaAbUBB"]),
   (["kana", "katakana"], ["skVdMCDjGQiAbVBdKczhEKBbTcouCEBHBCBBlBDbYBOE"]),
   (["kawi"], ["eerWRBbPDbD"]),
   (["khar", "kharoshthi"], ["dwtCEBCFIBDBbDCDEKHJ"]),
   (["khmr", "khmer"], ["ixKdQCKGKsSbG"]),
   (["khoj", "khojki"], ["dztWSBbV"]),
   (["kits", "khitansmallscript"], ["fjiIBkgXsCbPB"]),
   (["knda", "kannada"], ["etCNBDBXBKBFCJBDBEHCFDBECKBD"]),
   (["krai", "kiratrai"], ["fiiIcG"]),
   (["kthi", "kaithi"], ["dzfCcPKB"]),
   (["lana", "taitham"], ["jxGcLBbDCLGKGO"]),
   (["laoo", "lao"], ["fmVCBBBFBYBBBXCFBBBHBKCE"]),
   (["latn", "latin"],
     ["cNbAGbAbVBPBFXBbFBrHbNFjxBbMGbXFEFNBcScNjWoFBNBQNfLCGBbBBRbPecTbGbulMdYDdEUPbfKbRBJBEbedQH",
      "boKbAGbAdcFGBbQBJddnPbFGG"]),
   (["lepc", "lepcha"], ["kpScEDPDD"]),
   (["limb", "limbu"], ["jmEbFBMEMEBDM"]),
   (["lina", "lineara"], ["dvfSlZJWKI"]),
   (["linb", "linearb"], ["dsyQMBbABTBCBPCObIeT"]),
   (["lisu"], ["ckkUbWbumAB"]),
   (["lyci", "lycian"], ["dtxGbD"]),
   (["lydi", "lydian"], ["dwkMbAFB"]),
   (["mahj", "mahajani"], ["dznCbN"]),
   (["maka", "makasar"], ["eeqQZ"]),
   (["mand", "mandaic"], ["ddGbCCB"]),
   (["mani", "manichaean"], ["dxaMbNEM"]),
   (["marc", "marchen"], ["edsQbGCWBO"]),
   (["medf", "medefaidrin"], ["fisEdN"]),
   (["mend", "mendekikakui"], ["hcuYhPCQ"]),
   (["merc", "meroiticcursive"], ["dwpKYEUCbU"]),
   (["mero", "meroitichieroglyphs"], ["dwoEbG"]),
   (["mlym", "malayalam"], ["eyANBDBbZBDBGEQCbA"]),
   (["modi"], ["ebhGcRLK"]),
   (["mong", "mongolian"], ["jcICCBBUGdLHbRdscBN"]),
   (["mroo", "mro"], ["fheUbFBKEC"]),
   (["mtei", "meeteimayek"], ["cmsMXhTbUCK"]),
   (["mult", "multani"], ["dzyUHBBBEBPBL"]),
   (["mymr", "myanmar"], ["gbOgEcgaYbFdTbGbpaMU"]),
   (["nagm", "nagmundari"], ["hbpObQ"]),
   (["nand", "nandinagari"], ["ecqYICbUCL"]),
   (["narb", "oldnortharabian"], ["dwyAbG"]),
   (["nbat", "nabataean"], ["dweIbFIJ"]),
   (["newa"], ["eanOdOBF"]),
   (["nkoo", "nko"], ["cyIcHCD"]),
   (["nshu", "nushu"], ["fjiFByvMpG"]),
   (["ogam", "ogham"], ["inObD"]),
   (["olck", "olchiki"], ["ksUbW"]),
   (["onao", "olonal"], ["hbzKbREB"]),
   (["orkh", "oldturkic"], ["dxmUcV"]),
   (["orya", "oriya"], ["eeJDBICCCWBHBCBFCJCCCDHDECBFCS"]),
   (["osge", "osage"], ["dusUbKEbK"]),
   (["osma", "osmanya"], ["duqYbECK"]),
   (["ougr", "olduyghur"], ["dyuQbA"]),
   (["palm", "palmyrene"], ["dwdCbG"]),
   (["pauc", "paucinhau"], ["edcAcF"]),
   (["perm", "oldpermic"], ["dufGbR"]),
   (["phag", "phagspa"], ["clsQcE"]),
   (["phli", "inscriptionalpahlavi"], ["dxgQTFI"]),
   (["phlp", "psalterpahlavi"], ["dxhWSHEMH"]),
   (["phnx", "phoenician"], ["dwjGbCDB"]),
   (["plrd", "miao"], ["fizOcXEcFHR"]),
   (["prti", "inscriptionalparthian"], ["dxfKWCI"]),
   (["rjng", "rejang"], ["cmbWbKLB"]),
   (["rohg", "hanifirohingya"], ["dxwQbOIK"]),
   (["runr", "runic"], ["ioUcXDL"]),
   (["samr", "samaritan"], ["daUbUCP"]),
   (["sarb", "oldsoutharabian"], ["dwwUbG"]),
   (["saur", "saurashtra"], ["clvCcSIM"]),
   (["sgnw", "signwriting"], ["gwtKzCPFBP"]),
   (["shaw", "shavian"], ["dupCbW"]),
   (["shrd", "sharada"], ["dzoYdSdpOI"]),
   (["sidd", "siddham"], ["ebcIcCCbM"]),
   (["sidt", "sidetic"], ["dwlSbA"]),
   (["sind", "khudawadi"], ["eaaQcHFK"]),
   (["sinh", "sinhala"], ["fcZDBSDYBJBBCHDBEGBBBIGKCDdulGU"]),
   (["sogd", "sogdian"], ["dysEbQ"]),
   (["sogo", "oldsogdian"], ["dyqIbO"]),
   (["sora", "sorasompeng"], ["dziEZHK"]),
   (["soyo", "soyombo"], ["ecxSdF"]),
   (["sund", "sundanese"], ["kkUcMjWI"]),
   (["sunu", "sunuwar"], ["edlWbIOK"]),
   (["sylo", "sylotinagri"], ["clqEbT"]),
   (["syrc", "syriac"], ["cqYOBcICDkML"]),
   (["tagb", "tagbanwa"], ["iwENBDBC"]),
   (["takr", "takri"], ["ebmEcGGK"]),
   (["tale", "taile"], ["jpGbECF"]),
   (["talu", "newtailue"], ["jrCbSEbAGLDC"]),
   (["taml", "tamil"], ["ejICBGDDBEDCBBBCDCDDDMEFDDBECBGBOVealHbYNB"]),
   (["tang", "tangut"], ["fjiEBbFkfWtSbFdTeL"]),
   (["tavt", "taiviet"], ["cmoUcPYF"]),
   (["tayo", "taiyo"], ["hciQbFBWIC"]),
   (["telu", "telugu"], ["eoENBDBXBQCJBDBEHCBDBCCECKHJ"]),
   (["tfng", "tifinagh"], ["rcYcEHCOB"]),
   (["tglg", "tagalog"], ["isMWJB"]),
   (["thaa", "thaana"], ["cvWbY"]),
   (["thai"], ["fhXcGFbC"]),
   (["tibt", "tibetan"], ["frScUBbKEbNBbKBPBHEC"]),
   (["tirh", "tirhuta"], ["easMcUIK"]),
   (["tnsa", "tangsa"], ["fhgQdBBK"]),
   (["todr", "todhri"], ["dvdGcA"]),
   (["tols", "tolongsiki"], ["eeeYbSEK"]),
   (["toto"], ["hatKbF"]),
   (["tutg", "tulutigalari"], ["eaiQKBBCBBbMBKBBCBBEBKBCIC"]),
   (["ugar", "ugaritic"], ["duhCbEBB"]),
   (["vaii", "vai"], ["ckmQlO"]),
   (["vith", "vithkuqi"], ["dvaELBPBHBCBLBPBHBC"]),
   (["wara", "warangciti"], ["echCdFMB"]),
   (["wcho", "wancho"], ["havGcGFB"]),
   (["xpeo", "oldpersian"], ["duiIbKEO"]),
   (["xsux", "cuneiform"], ["efbSbjMdYeHBFLhO"]),
   (["yezi", "yezidi"], ["dylKbQBDCC"]),
   (["yiii", "yi"], ["cipKbsVDcD"]),
   (["zanb", "zanabazarsquare"], ["ecuQcU"]),
   (["zinh", "inherited", "qaai"],
     ["bdOeIkRCrKLbABbcIEgoXbUCMsQDBNBHEBGBDChQcMuEChMbHftXEeDCczuJQQOblNBiSBgfABctcUbUCXuYDRICHb",
      "EEbtlhIjG"]),
   (["zyyy", "common"],
     ["AcNbAGbAbVBPBFXBbFBrHbNFFCUeMBJBGBBByNBGBOBDBbGBgABtWBeZCbvTBpPElEBcgLDcTChVCBBbvHBNBHEBGB",
      "DCBbdTMCdJBLDLBPRbIcKbMBDCGBbBBRbPDEzQWLVbjSjWyECfItSdQpMVBBBZPIEEdNCDBdMCfRQbGbMJBbWcMbFd",
      "DbVBdKgMjtOcMbhsIbIdYDgJKjKBgEBpFBOCbezQCiAKWbJBTBEfRBBbGbAGbALKBbTCcMHBHKFjYDEbTDJdCNbZbT",
      "iUbBcshWEfvGjTDqUGXPRdReMcIjMKbNCcKDRICHbEEcJiFUMUMdJJZfFdHBcTBCCBCCCEBMBBBHBcNBECIBHBbCBE",
      "BFBBDHBnCClGCbYhtHcQcYcJbbEbSEdWMPCPBPBbLKgScEbABCNbSEJHCOGfYblXDRDNDiKGMEBPMEcEIKGbOIbECM",
      "ECOJbNnGIOCNDLDcFBBEQCMEKHfRBdZbsuxABbEdS"])]

/-- Where the extensions of a script, given by its first name, differ from the script. -/
def scriptExtensionRuns : List (String × List String) :=
  [("adlm", ["ciHBbGBjwOBfhHB"]),
   ("aghb", ["bdSBbSBbSB"]),
   ("arab", ["chOBOBDBbGBKLbABjuSBfhHBdakACcdKbC"]),
   ("armn", ["bdWB"]),
   ("avst", ["hBBrfSC"]),
   ("beng", ["baYBcmUCRChjEBBBCCBBIBIBCBEBCDcbaFB"]),
   ("bopo", ["bbJBBDNBrcPDEKBNKECBGBhNBcztHCkWF"]),
   ("bugi", ["cmhZB"]),
   ("buhd", ["iuNC"]),
   ("cakm", ["dtMKckEK"]),
   ("cari", ["hBBlzMBCBfgDB"]),
   ("cher", ["bdODBBGCWCLC"]),
   ("copt", ["hBBwMBDCBBeECqdTBdcpCbC"]),
   ("cpmn", ["dtiMC"]),
   ("cprt", ["dtiMDEbTDJ"]),
   ("cyrl", ["baYBcPDBBBBBBCBFBoHCjqNBgeKB"]),
   ("deva", ["baYBcmUCRChjEbNBCbnABbzfRK"]),
   ("dogr", ["doMMcidCK"]),
   ("dupl", ["hBBwTCBBYCqiHBfuwPE"]),
   ("elba", ["hBBwRB"]),
   ("ethi", ["beCB"]),
   ("gara", ["chOBOBDB"]),
   ("geor", ["hBBbvLBeiRBfvIBfgGB"]),
   ("glag", ["hBBwPBBBoSBCBjXBeiRBfvIBfgYBbtnFB"]),
   ("gong", ["hBBdhKC"]),
   ("gonm", ["doMC"]),
   ("goth", ["hBBwQCCBbOB"]),
   ("gran", ["dnTCRCyQOgkABBCbEDDCbnABdntQBetWCBB"]),
   ("grek", ["hBBwMCCBBBBBKBbUBCBbUBjyXCzRB"]),
   ("gujr", ["dnTCRCcidMK"]),
   ("gukh", ["doNB"]),
   ("guru", ["dnTCRCcidMK"]),
   ("hang", ["seRDEKBNQBGBhNBcztHCkWF"]),
   ("hani", ["hBBrwYQBDCBBKBNKECBGBEEhFBfSQbGbMJBbWbOcEbXPMbZBdKZKFdSbFbroJIbhaZCkWFdchESlrYC"]),
   ("hano", ["iuNC"]),
   ("hebr", ["bdVC"]),
   ("hira", ["seRDEKBNQGBBECdNEDBdMCcztGCkWFKBbTC"]),
   ("hung", ["mgOBCBfgDBPB"]),
   ("java", ["cmhZB"]),
   ("kali", ["cmbUB"]),
   ("kana", ["bdTBbDBqzTDEKBNQGBBECdNEDBdMCcztGCkWFKBbTC"]),
   ("khoj", ["edIKchoIK"]),
   ("knda", ["dnTCRChjEBBCGBXBBBcasXG"]),
   ("kthi", ["doOKnxXBbufEK"]),
   ("latn", ["hBBtWBKBBDBBJBBBbMPBCBBPDHCBCbMBFBENkRCbvECcxKBexWBvUBhKBezMBbtuMIvEB"]),
   ("limb", ["doNB"]),
   ("lina", ["dtiTbT"]),
   ("linb", ["dtiMDEbTDJ"]),
   ("lisu", ["baYBQBrdKC"]),
   ("lyci", ["mgOB"]),
   ("lydi", ["hBBrfTB"]),
   ("mahj", ["hBBdhKMcidCK"]),
   ("mand", ["cjOB"]),
   ("mani", ["cjOB"]),
   ("mero", ["mgRB"]),
   ("mlym", ["dnTCRChjOBXBcasZD"]),
   ("modi", ["clsAK"]),
   ("mong", ["jcKCBBdcJBfzTCFE"]),
   ("mult", ["dyKK"]),
   ("mymr", ["cmbUB"]),
   ("nand", ["dnTBSCbiMKgbHBIBHBcasRG"]),
   ("newa", ["dnTChkCBBCJBGBBBBB"]),
   ("nkoo", ["chOBOBDBdppEC"]),
   ("onao", ["doMC"]),
   ("orkh", ["mgOBfgFB"]),
   ("orya", ["dnTCRChjOBXB"]),
   ("osge", ["bdPBCBGBcYB"]),
   ("ougr", ["cjOBdusVB"]),
   ("perm", ["hBBwMBFDKBoDB"]),
   ("phag", ["jcKCBBdcJBfzUB"]),
   ("phlp", ["cjOB"]),
   ("rohg", ["chOBOBDBbGBfRB"]),
   ("runr", ["irRD"]),
   ("samr", ["rmVB"]),
   ("shaw", ["hBB"]),
   ("shrd", ["dnTBhkFBBBCCCBJBCBcatEGCB"]),
   ("sind", ["doMCcidMK"]),
   ("sinh", ["doMChkMB"]),
   ("sogd", ["cjOB"]),
   ("sunu", ["bdOCBBJBCBbCBDB"]),
   ("sylo", ["doMCeYK"]),
   ("syrc", ["bdRCCCBBYDHCBCbcCBOCCBbGBKLbABixRBBB"]),
   ("tagb", ["iuNC"]),
   ("takr", ["doMCcidMK"]),
   ("tale", ["bdOCFCDBezZK"]),
   ("taml", ["dnTCRChjOBcbbKBboeFBBBcDC"]),
   ("tang", ["seAQtBB"]),
   ("telu", ["dnTCRChjJCBBBBXB"]),
   ("tfng", ["bdQBBBBEZB"]),
   ("tglg", ["iuNC"]),
   ("thaa", ["chOBOCCBcMKdptGBKB"]),
   ("thai", ["baYBbABbRBbTB"]),
   ("tibt", ["seYE"]),
   ("tirh", ["dnTCRChjJBMBPBcasZK"]),
   ("todr", ["bdPBCBCBJBBBcWB"]),
   ("toto", ["baYB"]),
   ("tutg", ["exAKgbQBBBcasXGhFB"]),
   ("yezi", ["chOBOBDBcMK"]),
   ("yiii", ["seRCFKCIiPBdaeFF"]),
   ("zinh", ["bdOPBCBBPDHCBCQBCBSBFBENkRCrKLbABbcIChjXDBNBHEBGBDChQCcCBBBbdDBftXEeDCdbqJBgfAB"]),
   ("zyyy",
     ["hBBtWBKBBDBBJBBBfYBzNBOBDBbGBbeXCcwRBcgLDcTChVCBBbvHBNBHEBGBDCBbfOBbFBKBCBffDBYCKBEBBBqMQB",
      "DCBBKBNQGBBEEdNCDBdMCfRQbGbMJBbWbOcEbXPMbZBdKZKFdSbFbroJIlKKjKBgEBbfpMCkBCkWFKBbTCnODEbTDJ",
      "qBbBcshWEipWSlrYC"])]

def emptyScriptNames : List String := ["hrkt", "katakanaorhiragana", "zzzz", "unknown"]

def script? (name : String) : Option CharSet :=
  (scriptRuns.find? fun entry => entry.1.contains name).map fun entry => .ofRuns entry.2

def scriptExtension? (name : String) : Option CharSet := do
  let entry ← scriptRuns.find? fun entry => entry.1.contains name
  let script := CharSet.ofRuns entry.2
  match scriptExtensionRuns.find? fun differing => entry.1.head? == some differing.1 with
  | some differing => return script.symmetricDifference (.ofRuns differing.2)
  | none => return script

end Throughput.Unicode
