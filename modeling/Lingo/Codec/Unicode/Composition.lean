import Lingo.Codec.Ranges

/-!
# Combining classes and compositions

The canonical combining classes and the canonical compositions that normalization uses. The
composition pairs are the canonical decompositions into two characters whose first character is
a starter, less the composition exclusions.
-/

namespace Lingo.Codec.Unicode

/-- The characters of each nonzero canonical combining class, as ranges. -/
def combiningClassRanges : List (Nat × String) := [
  (1, "334-338 1cd4-1cd4 1ce2-1ce8 20d2-20d3 20d8-20da 20e5-20e6 20ea-20eb 10a39-10a39 16af0-16af4 1bc9e-1bc9e 1d167-1d169"),
  (6, "16ff0-16ff1"),
  (7, "93c-93c 9bc-9bc a3c-a3c abc-abc b3c-b3c c3c-c3c cbc-cbc 1037-1037 1b34-1b34 1be6-1be6 1c37-1c37 a9b3-a9b3 110ba-110ba 11173-11173 111ca-111ca 11236-11236 112e9-112e9 1133b-1133c 11446-11446 114c3-114c3 115c0-115c0 116b7-116b7 1183a-1183a 11943-11943 11d42-11d42 1e94a-1e94a"),
  (8, "3099-309a"),
  (9, "94d-94d 9cd-9cd a4d-a4d acd-acd b4d-b4d bcd-bcd c4d-c4d ccd-ccd d3b-d3c d4d-d4d dca-dca e3a-e3a eba-eba f84-f84 1039-103a 1714-1715 1734-1734 17d2-17d2 1a60-1a60 1b44-1b44 1baa-1bab 1bf2-1bf3 2d7f-2d7f a806-a806 a82c-a82c a8c4-a8c4 a953-a953 a9c0-a9c0 aaf6-aaf6 abed-abed 10a3f-10a3f 11046-11046 11070-11070 1107f-1107f 110b9-110b9 11133-11134 111c0-111c0 11235-11235 112ea-112ea 1134d-1134d 11442-11442 114c2-114c2 115bf-115bf 1163f-1163f 116b6-116b6 1172b-1172b 11839-11839 1193d-1193e 119e0-119e0 11a34-11a34 11a47-11a47 11a99-11a99 11c3f-11c3f 11d44-11d45 11d97-11d97"),
  (10, "5b0-5b0"),
  (11, "5b1-5b1"),
  (12, "5b2-5b2"),
  (13, "5b3-5b3"),
  (14, "5b4-5b4"),
  (15, "5b5-5b5"),
  (16, "5b6-5b6"),
  (17, "5b7-5b7"),
  (18, "5b8-5b8 5c7-5c7"),
  (19, "5b9-5ba"),
  (20, "5bb-5bb"),
  (21, "5bc-5bc"),
  (22, "5bd-5bd"),
  (23, "5bf-5bf"),
  (24, "5c1-5c1"),
  (25, "5c2-5c2"),
  (26, "fb1e-fb1e"),
  (27, "64b-64b 8f0-8f0"),
  (28, "64c-64c 8f1-8f1"),
  (29, "64d-64d 8f2-8f2"),
  (30, "618-618 64e-64e"),
  (31, "619-619 64f-64f"),
  (32, "61a-61a 650-650"),
  (33, "651-651"),
  (34, "652-652"),
  (35, "670-670"),
  (36, "711-711"),
  (84, "c55-c55"),
  (91, "c56-c56"),
  (103, "e38-e39"),
  (107, "e48-e4b"),
  (118, "eb8-eb9"),
  (122, "ec8-ecb"),
  (129, "f71-f71"),
  (130, "f72-f72 f7a-f7d f80-f80"),
  (132, "f74-f74"),
  (202, "321-322 327-328 1dd0-1dd0"),
  (214, "1dce-1dce"),
  (216, "31b-31b f39-f39 1d165-1d166 1d16e-1d172"),
  (218, "1dfa-1dfa 302a-302a"),
  (220, "316-319 31c-320 323-326 329-333 339-33c 347-349 34d-34e 353-356 359-35a 591-591 596-596 59b-59b 5a2-5a7 5aa-5aa 5c5-5c5 655-656 65c-65c 65f-65f 6e3-6e3 6ea-6ea 6ed-6ed 731-731 734-734 737-739 73b-73c 73e-73e 742-742 744-744 746-746 748-748 7f2-7f2 7fd-7fd 859-85b 899-89b 8cf-8d3 8e3-8e3 8e6-8e6 8e9-8e9 8ed-8ef 8f6-8f6 8f9-8fa 952-952 f18-f19 f35-f35 f37-f37 fc6-fc6 108d-108d 193b-193b 1a18-1a18 1a7f-1a7f 1ab5-1aba 1abd-1abd 1abf-1ac0 1ac3-1ac4 1aca-1aca 1b6c-1b6c 1cd5-1cd9 1cdc-1cdf 1ced-1ced 1dc2-1dc2 1dca-1dca 1dcf-1dcf 1df9-1df9 1dfd-1dfd 1dff-1dff 20e8-20e8 20ec-20ef a92b-a92d aab4-aab4 fe27-fe2d 101fd-101fd 102e0-102e0 10a0d-10a0d 10a3a-10a3a 10ae6-10ae6 10f46-10f47 10f4b-10f4b 10f4d-10f50 10f83-10f83 10f85-10f85 1d17b-1d182 1d18a-1d18b 1e8d0-1e8d6"),
  (222, "59a-59a 5ad-5ad 1939-1939 302d-302d"),
  (224, "302e-302f"),
  (226, "1d16d-1d16d"),
  (228, "5ae-5ae 18a9-18a9 1df7-1df8 302b-302b"),
  (230, "300-314 33d-344 346-346 34a-34c 350-352 357-357 35b-35b 363-36f 483-487 592-595 597-599 59c-5a1 5a8-5a9 5ab-5ac 5af-5af 5c4-5c4 610-617 653-654 657-65b 65d-65e 6d6-6dc 6df-6e2 6e4-6e4 6e7-6e8 6eb-6ec 730-730 732-733 735-736 73a-73a 73d-73d 73f-741 743-743 745-745 747-747 749-74a 7eb-7f1 7f3-7f3 816-819 81b-823 825-827 829-82d 898-898 89c-89f 8ca-8ce 8d4-8e1 8e4-8e5 8e7-8e8 8ea-8ec 8f3-8f5 8f7-8f8 8fb-8ff 951-951 953-954 9fe-9fe f82-f83 f86-f87 135d-135f 17dd-17dd 193a-193a 1a17-1a17 1a75-1a7c 1ab0-1ab4 1abb-1abc 1ac1-1ac2 1ac5-1ac9 1acb-1ace 1b6b-1b6b 1b6d-1b73 1cd0-1cd2 1cda-1cdb 1ce0-1ce0 1cf4-1cf4 1cf8-1cf9 1dc0-1dc1 1dc3-1dc9 1dcb-1dcc 1dd1-1df5 1dfb-1dfb 1dfe-1dfe 20d0-20d1 20d4-20d7 20db-20dc 20e1-20e1 20e7-20e7 20e9-20e9 20f0-20f0 2cef-2cf1 2de0-2dff a66f-a66f a674-a67d a69e-a69f a6f0-a6f1 a8e0-a8f1 aab0-aab0 aab2-aab3 aab7-aab8 aabe-aabf aac1-aac1 fe20-fe26 fe2e-fe2f 10376-1037a 10a0f-10a0f 10a38-10a38 10ae5-10ae5 10d24-10d27 10eab-10eac 10f48-10f4a 10f4c-10f4c 10f82-10f82 10f84-10f84 11100-11102 11366-1136c 11370-11374 1145e-1145e 16b30-16b36 1d185-1d189 1d1aa-1d1ad 1d242-1d244 1e000-1e006 1e008-1e018 1e01b-1e021 1e023-1e024 1e026-1e02a 1e130-1e136 1e2ae-1e2ae 1e2ec-1e2ef 1e944-1e949"),
  (232, "315-315 31a-31a 358-358 1df6-1df6 302c-302c"),
  (233, "35c-35c 35f-35f 362-362 1dfc-1dfc"),
  (234, "35d-35e 360-361 1dcd-1dcd"),
  (240, "345-345")]

/-- The canonical compositions: each entry is three characters, the first and the second of a
pair and the character they compose to. -/
def compositionTriples : List String := [
  "A\u0300ÀA\u0301ÁA\u0302ÂA\u0303ÃA\u0308ÄA\u030AÅC\u0327ÇE\u0300ÈE\u0301ÉE\u0302ÊE\u0308ËI\u0300ÌI\u0301ÍI\u0302ÎI\u0308ÏN\u0303ÑO\u0300ÒO\u0301ÓO\u0302ÔO\u0303ÕO\u0308ÖU\u0300ÙU\u0301ÚU\u0302ÛU\u0308ÜY\u0301Ýa\u0300àa\u0301áa\u0302âa\u0303ã",
  "a\u0308äa\u030Aåc\u0327çe\u0300èe\u0301ée\u0302êe\u0308ëi\u0300ìi\u0301íi\u0302îi\u0308ïn\u0303ño\u0300òo\u0301óo\u0302ôo\u0303õo\u0308öu\u0300ùu\u0301úu\u0302ûu\u0308üy\u0301ýy\u0308ÿA\u0304Āa\u0304āA\u0306Ăa\u0306ăA\u0328Ąa\u0328ąC\u0301Ć",
  "c\u0301ćC\u0302Ĉc\u0302ĉC\u0307Ċc\u0307ċC\u030CČc\u030CčD\u030CĎd\u030CďE\u0304Ēe\u0304ēE\u0306Ĕe\u0306ĕE\u0307Ėe\u0307ėE\u0328Ęe\u0328ęE\u030CĚe\u030CěG\u0302Ĝg\u0302ĝG\u0306Ğg\u0306ğG\u0307Ġg\u0307ġG\u0327Ģg\u0327ģH\u0302Ĥh\u0302ĥI\u0303Ĩ",
  "i\u0303ĩI\u0304Īi\u0304īI\u0306Ĭi\u0306ĭI\u0328Įi\u0328įI\u0307İJ\u0302Ĵj\u0302ĵK\u0327Ķk\u0327ķL\u0301Ĺl\u0301ĺL\u0327Ļl\u0327ļL\u030CĽl\u030CľN\u0301Ńn\u0301ńN\u0327Ņn\u0327ņN\u030CŇn\u030CňO\u0304Ōo\u0304ōO\u0306Ŏo\u0306ŏO\u030BŐo\u030Bő",
  "R\u0301Ŕr\u0301ŕR\u0327Ŗr\u0327ŗR\u030CŘr\u030CřS\u0301Śs\u0301śS\u0302Ŝs\u0302ŝS\u0327Şs\u0327şS\u030CŠs\u030CšT\u0327Ţt\u0327ţT\u030CŤt\u030CťU\u0303Ũu\u0303ũU\u0304Ūu\u0304ūU\u0306Ŭu\u0306ŭU\u030AŮu\u030AůU\u030BŰu\u030BűU\u0328Ųu\u0328ų",
  "W\u0302Ŵw\u0302ŵY\u0302Ŷy\u0302ŷY\u0308ŸZ\u0301Źz\u0301źZ\u0307Żz\u0307żZ\u030CŽz\u030CžO\u031BƠo\u031BơU\u031BƯu\u031BưA\u030CǍa\u030CǎI\u030CǏi\u030CǐO\u030CǑo\u030CǒU\u030CǓu\u030CǔÜ\u0304Ǖü\u0304ǖÜ\u0301Ǘü\u0301ǘÜ\u030CǙü\u030CǚÜ\u0300Ǜ",
  "ü\u0300ǜÄ\u0304Ǟä\u0304ǟȦ\u0304Ǡȧ\u0304ǡÆ\u0304Ǣæ\u0304ǣG\u030CǦg\u030CǧK\u030CǨk\u030CǩO\u0328Ǫo\u0328ǫǪ\u0304Ǭǫ\u0304ǭƷ\u030CǮʒ\u030Cǯj\u030CǰG\u0301Ǵg\u0301ǵN\u0300Ǹn\u0300ǹÅ\u0301Ǻå\u0301ǻÆ\u0301Ǽæ\u0301ǽØ\u0301Ǿø\u0301ǿA\u030FȀa\u030Fȁ",
  "A\u0311Ȃa\u0311ȃE\u030FȄe\u030FȅE\u0311Ȇe\u0311ȇI\u030FȈi\u030FȉI\u0311Ȋi\u0311ȋO\u030FȌo\u030FȍO\u0311Ȏo\u0311ȏR\u030FȐr\u030FȑR\u0311Ȓr\u0311ȓU\u030FȔu\u030FȕU\u0311Ȗu\u0311ȗS\u0326Șs\u0326șT\u0326Țt\u0326țH\u030CȞh\u030CȟA\u0307Ȧa\u0307ȧ",
  "E\u0327Ȩe\u0327ȩÖ\u0304Ȫö\u0304ȫÕ\u0304Ȭõ\u0304ȭO\u0307Ȯo\u0307ȯȮ\u0304Ȱȯ\u0304ȱY\u0304Ȳy\u0304ȳ¨\u0301΅Α\u0301ΆΕ\u0301ΈΗ\u0301ΉΙ\u0301ΊΟ\u0301ΌΥ\u0301ΎΩ\u0301Ώϊ\u0301ΐΙ\u0308ΪΥ\u0308Ϋα\u0301άε\u0301έη\u0301ήι\u0301ίϋ\u0301ΰι\u0308ϊυ\u0308ϋ",
  "ο\u0301όυ\u0301ύω\u0301ώϒ\u0301ϓϒ\u0308ϔЕ\u0300ЀЕ\u0308ЁГ\u0301ЃІ\u0308ЇК\u0301ЌИ\u0300ЍУ\u0306ЎИ\u0306Йи\u0306йе\u0300ѐе\u0308ёг\u0301ѓі\u0308їк\u0301ќи\u0300ѝу\u0306ўѴ\u030FѶѵ\u030FѷЖ\u0306Ӂж\u0306ӂА\u0306Ӑа\u0306ӑА\u0308Ӓа\u0308ӓЕ\u0306Ӗ",
  "е\u0306ӗӘ\u0308Ӛә\u0308ӛЖ\u0308Ӝж\u0308ӝЗ\u0308Ӟз\u0308ӟИ\u0304Ӣи\u0304ӣИ\u0308Ӥи\u0308ӥО\u0308Ӧо\u0308ӧӨ\u0308Ӫө\u0308ӫЭ\u0308Ӭэ\u0308ӭУ\u0304Ӯу\u0304ӯУ\u0308Ӱу\u0308ӱУ\u030BӲу\u030BӳЧ\u0308Ӵч\u0308ӵЫ\u0308Ӹы\u0308ӹا\u0653آا\u0654أو\u0654ؤ",
  "ا\u0655إي\u0654ئە\u0654ۀہ\u0654ۂے\u0654ۓन\u093Cऩर\u093Cऱळ\u093Cऴ\u09C7\u09BE\u09CB\u09C7\u09D7\u09CC\u0B47\u0B56\u0B48\u0B47\u0B3E\u0B4B\u0B47\u0B57\u0B4Cஒ\u0BD7ஔ\u0BC6\u0BBE\u0BCA\u0BC7\u0BBE\u0BCB\u0BC6\u0BD7\u0BCC\u0C46\u0C56\u0C48\u0CBF\u0CD5\u0CC0\u0CC6\u0CD5\u0CC7\u0CC6\u0CD6\u0CC8\u0CC6\u0CC2\u0CCA\u0CCA\u0CD5\u0CCB\u0D46\u0D3E\u0D4A\u0D47\u0D3E\u0D4B\u0D46\u0D57\u0D4C\u0DD9\u0DCA\u0DDA\u0DD9\u0DCF\u0DDC\u0DDC\u0DCA\u0DDD\u0DD9\u0DDF\u0DDE",
  "ဥ\u102Eဦᬅ\u1B35ᬆᬇ\u1B35ᬈᬉ\u1B35ᬊᬋ\u1B35ᬌᬍ\u1B35ᬎᬑ\u1B35ᬒ\u1B3A\u1B35\u1B3B\u1B3C\u1B35\u1B3D\u1B3E\u1B35\u1B40\u1B3F\u1B35\u1B41\u1B42\u1B35\u1B43A\u0325Ḁa\u0325ḁB\u0307Ḃb\u0307ḃB\u0323Ḅb\u0323ḅB\u0331Ḇb\u0331ḇÇ\u0301Ḉç\u0301ḉD\u0307Ḋd\u0307ḋD\u0323Ḍd\u0323ḍD\u0331Ḏd\u0331ḏD\u0327Ḑd\u0327ḑ",
  "D\u032DḒd\u032DḓĒ\u0300Ḕē\u0300ḕĒ\u0301Ḗē\u0301ḗE\u032DḘe\u032DḙE\u0330Ḛe\u0330ḛȨ\u0306Ḝȩ\u0306ḝF\u0307Ḟf\u0307ḟG\u0304Ḡg\u0304ḡH\u0307Ḣh\u0307ḣH\u0323Ḥh\u0323ḥH\u0308Ḧh\u0308ḧH\u0327Ḩh\u0327ḩH\u032EḪh\u032EḫI\u0330Ḭi\u0330ḭÏ\u0301Ḯï\u0301ḯ",
  "K\u0301Ḱk\u0301ḱK\u0323Ḳk\u0323ḳK\u0331Ḵk\u0331ḵL\u0323Ḷl\u0323ḷḶ\u0304Ḹḷ\u0304ḹL\u0331Ḻl\u0331ḻL\u032DḼl\u032DḽM\u0301Ḿm\u0301ḿM\u0307Ṁm\u0307ṁM\u0323Ṃm\u0323ṃN\u0307Ṅn\u0307ṅN\u0323Ṇn\u0323ṇN\u0331Ṉn\u0331ṉN\u032DṊn\u032DṋÕ\u0301Ṍõ\u0301ṍ",
  "Õ\u0308Ṏõ\u0308ṏŌ\u0300Ṑō\u0300ṑŌ\u0301Ṓō\u0301ṓP\u0301Ṕp\u0301ṕP\u0307Ṗp\u0307ṗR\u0307Ṙr\u0307ṙR\u0323Ṛr\u0323ṛṚ\u0304Ṝṛ\u0304ṝR\u0331Ṟr\u0331ṟS\u0307Ṡs\u0307ṡS\u0323Ṣs\u0323ṣŚ\u0307Ṥś\u0307ṥŠ\u0307Ṧš\u0307ṧṢ\u0307Ṩṣ\u0307ṩT\u0307Ṫt\u0307ṫ",
  "T\u0323Ṭt\u0323ṭT\u0331Ṯt\u0331ṯT\u032DṰt\u032DṱU\u0324Ṳu\u0324ṳU\u0330Ṵu\u0330ṵU\u032DṶu\u032DṷŨ\u0301Ṹũ\u0301ṹŪ\u0308Ṻū\u0308ṻV\u0303Ṽv\u0303ṽV\u0323Ṿv\u0323ṿW\u0300Ẁw\u0300ẁW\u0301Ẃw\u0301ẃW\u0308Ẅw\u0308ẅW\u0307Ẇw\u0307ẇW\u0323Ẉw\u0323ẉ",
  "X\u0307Ẋx\u0307ẋX\u0308Ẍx\u0308ẍY\u0307Ẏy\u0307ẏZ\u0302Ẑz\u0302ẑZ\u0323Ẓz\u0323ẓZ\u0331Ẕz\u0331ẕh\u0331ẖt\u0308ẗw\u030Aẘy\u030Aẙſ\u0307ẛA\u0323Ạa\u0323ạA\u0309Ảa\u0309ảÂ\u0301Ấâ\u0301ấÂ\u0300Ầâ\u0300ầÂ\u0309Ẩâ\u0309ẩÂ\u0303Ẫâ\u0303ẫẠ\u0302Ậ",
  "ạ\u0302ậĂ\u0301Ắă\u0301ắĂ\u0300Ằă\u0300ằĂ\u0309Ẳă\u0309ẳĂ\u0303Ẵă\u0303ẵẠ\u0306Ặạ\u0306ặE\u0323Ẹe\u0323ẹE\u0309Ẻe\u0309ẻE\u0303Ẽe\u0303ẽÊ\u0301Ếê\u0301ếÊ\u0300Ềê\u0300ềÊ\u0309Ểê\u0309ểÊ\u0303Ễê\u0303ễẸ\u0302Ệẹ\u0302ệI\u0309Ỉi\u0309ỉI\u0323Ị",
  "i\u0323ịO\u0323Ọo\u0323ọO\u0309Ỏo\u0309ỏÔ\u0301Ốô\u0301ốÔ\u0300Ồô\u0300ồÔ\u0309Ổô\u0309ổÔ\u0303Ỗô\u0303ỗỌ\u0302Ộọ\u0302ộƠ\u0301Ớơ\u0301ớƠ\u0300Ờơ\u0300ờƠ\u0309Ởơ\u0309ởƠ\u0303Ỡơ\u0303ỡƠ\u0323Ợơ\u0323ợU\u0323Ụu\u0323ụU\u0309Ủu\u0309ủƯ\u0301Ứ",
  "ư\u0301ứƯ\u0300Ừư\u0300ừƯ\u0309Ửư\u0309ửƯ\u0303Ữư\u0303ữƯ\u0323Ựư\u0323ựY\u0300Ỳy\u0300ỳY\u0323Ỵy\u0323ỵY\u0309Ỷy\u0309ỷY\u0303Ỹy\u0303ỹα\u0313ἀα\u0314ἁἀ\u0300ἂἁ\u0300ἃἀ\u0301ἄἁ\u0301ἅἀ\u0342ἆἁ\u0342ἇΑ\u0313ἈΑ\u0314ἉἈ\u0300ἊἉ\u0300ἋἈ\u0301Ἄ",
  "Ἁ\u0301ἍἈ\u0342ἎἉ\u0342Ἇε\u0313ἐε\u0314ἑἐ\u0300ἒἑ\u0300ἓἐ\u0301ἔἑ\u0301ἕΕ\u0313ἘΕ\u0314ἙἘ\u0300ἚἙ\u0300ἛἘ\u0301ἜἙ\u0301Ἕη\u0313ἠη\u0314ἡἠ\u0300ἢἡ\u0300ἣἠ\u0301ἤἡ\u0301ἥἠ\u0342ἦἡ\u0342ἧΗ\u0313ἨΗ\u0314ἩἨ\u0300ἪἩ\u0300ἫἨ\u0301ἬἩ\u0301ἭἨ\u0342Ἦ",
  "Ἡ\u0342Ἧι\u0313ἰι\u0314ἱἰ\u0300ἲἱ\u0300ἳἰ\u0301ἴἱ\u0301ἵἰ\u0342ἶἱ\u0342ἷΙ\u0313ἸΙ\u0314ἹἸ\u0300ἺἹ\u0300ἻἸ\u0301ἼἹ\u0301ἽἸ\u0342ἾἹ\u0342Ἷο\u0313ὀο\u0314ὁὀ\u0300ὂὁ\u0300ὃὀ\u0301ὄὁ\u0301ὅΟ\u0313ὈΟ\u0314ὉὈ\u0300ὊὉ\u0300ὋὈ\u0301ὌὉ\u0301Ὅυ\u0313ὐ",
  "υ\u0314ὑὐ\u0300ὒὑ\u0300ὓὐ\u0301ὔὑ\u0301ὕὐ\u0342ὖὑ\u0342ὗΥ\u0314ὙὙ\u0300ὛὙ\u0301ὝὙ\u0342Ὗω\u0313ὠω\u0314ὡὠ\u0300ὢὡ\u0300ὣὠ\u0301ὤὡ\u0301ὥὠ\u0342ὦὡ\u0342ὧΩ\u0313ὨΩ\u0314ὩὨ\u0300ὪὩ\u0300ὫὨ\u0301ὬὩ\u0301ὭὨ\u0342ὮὩ\u0342Ὧα\u0300ὰε\u0300ὲη\u0300ὴ",
  "ι\u0300ὶο\u0300ὸυ\u0300ὺω\u0300ὼἀ\u0345ᾀἁ\u0345ᾁἂ\u0345ᾂἃ\u0345ᾃἄ\u0345ᾄἅ\u0345ᾅἆ\u0345ᾆἇ\u0345ᾇἈ\u0345ᾈἉ\u0345ᾉἊ\u0345ᾊἋ\u0345ᾋἌ\u0345ᾌἍ\u0345ᾍἎ\u0345ᾎἏ\u0345ᾏἠ\u0345ᾐἡ\u0345ᾑἢ\u0345ᾒἣ\u0345ᾓἤ\u0345ᾔἥ\u0345ᾕἦ\u0345ᾖἧ\u0345ᾗἨ\u0345ᾘἩ\u0345ᾙ",
  "Ἢ\u0345ᾚἫ\u0345ᾛἬ\u0345ᾜἭ\u0345ᾝἮ\u0345ᾞἯ\u0345ᾟὠ\u0345ᾠὡ\u0345ᾡὢ\u0345ᾢὣ\u0345ᾣὤ\u0345ᾤὥ\u0345ᾥὦ\u0345ᾦὧ\u0345ᾧὨ\u0345ᾨὩ\u0345ᾩὪ\u0345ᾪὫ\u0345ᾫὬ\u0345ᾬὭ\u0345ᾭὮ\u0345ᾮὯ\u0345ᾯα\u0306ᾰα\u0304ᾱὰ\u0345ᾲα\u0345ᾳά\u0345ᾴα\u0342ᾶᾶ\u0345ᾷΑ\u0306Ᾰ",
  "Α\u0304ᾹΑ\u0300ᾺΑ\u0345ᾼ¨\u0342῁ὴ\u0345ῂη\u0345ῃή\u0345ῄη\u0342ῆῆ\u0345ῇΕ\u0300ῈΗ\u0300ῊΗ\u0345ῌ᾿\u0300῍᾿\u0301῎᾿\u0342῏ι\u0306ῐι\u0304ῑϊ\u0300ῒι\u0342ῖϊ\u0342ῗΙ\u0306ῘΙ\u0304ῙΙ\u0300Ὶ῾\u0300῝῾\u0301῞῾\u0342῟υ\u0306ῠυ\u0304ῡϋ\u0300ῢρ\u0313ῤ",
  "ρ\u0314ῥυ\u0342ῦϋ\u0342ῧΥ\u0306ῨΥ\u0304ῩΥ\u0300ῪΡ\u0314Ῥ¨\u0300῭ὼ\u0345ῲω\u0345ῳώ\u0345ῴω\u0342ῶῶ\u0345ῷΟ\u0300ῸΩ\u0300ῺΩ\u0345ῼ←\u0338↚→\u0338↛↔\u0338↮⇐\u0338⇍⇔\u0338⇎⇒\u0338⇏∃\u0338∄∈\u0338∉∋\u0338∌∣\u0338∤∥\u0338∦∼\u0338≁≃\u0338≄≅\u0338≇",
  "≈\u0338≉=\u0338≠≡\u0338≢≍\u0338≭<\u0338≮>\u0338≯≤\u0338≰≥\u0338≱≲\u0338≴≳\u0338≵≶\u0338≸≷\u0338≹≺\u0338⊀≻\u0338⊁⊂\u0338⊄⊃\u0338⊅⊆\u0338⊈⊇\u0338⊉⊢\u0338⊬⊨\u0338⊭⊩\u0338⊮⊫\u0338⊯≼\u0338⋠≽\u0338⋡⊑\u0338⋢⊒\u0338⋣⊲\u0338⋪⊳\u0338⋫⊴\u0338⋬⊵\u0338⋭",
  "か\u3099がき\u3099ぎく\u3099ぐけ\u3099げこ\u3099ごさ\u3099ざし\u3099じす\u3099ずせ\u3099ぜそ\u3099ぞた\u3099だち\u3099ぢつ\u3099づて\u3099でと\u3099どは\u3099ばは\u309Aぱひ\u3099びひ\u309Aぴふ\u3099ぶふ\u309Aぷへ\u3099べへ\u309Aぺほ\u3099ぼほ\u309Aぽう\u3099ゔゝ\u3099ゞカ\u3099ガキ\u3099ギク\u3099グ",
  "ケ\u3099ゲコ\u3099ゴサ\u3099ザシ\u3099ジス\u3099ズセ\u3099ゼソ\u3099ゾタ\u3099ダチ\u3099ヂツ\u3099ヅテ\u3099デト\u3099ドハ\u3099バハ\u309Aパヒ\u3099ビヒ\u309Aピフ\u3099ブフ\u309Aプヘ\u3099ベヘ\u309Aペホ\u3099ボホ\u309Aポウ\u3099ヴワ\u3099ヷヰ\u3099ヸヱ\u3099ヹヲ\u3099ヺヽ\u3099ヾ𑂚𑂚𑂜𑂜",
  "𑂫𑂫𑄮𑄮𑄯𑄯𑍋𑍋𑍌𑍌𑒻𑒻𑒼𑒼𑒾𑒾𑖺𑖺𑖻𑖻𑤸𑤸"]

end Lingo.Codec.Unicode
